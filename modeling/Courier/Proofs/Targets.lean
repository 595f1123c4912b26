import Courier.Proofs.Alignment
import Courier.Proofs.Queries

/-!
# Targets that are read back

The target of a request is the path of the base URL and that of the call, and the
parameters as a query. It starts with a slash, and since neither path holds a question
mark, a reader who cuts it at the first one finds the query, and in the query all the
parameters (`Client.Asks`). Such a call fails for its body or its headers only.

Parameters are texts, or lists of texts. They give a body in the same way where they are
sent as a form.
-/

namespace Courier.Client

open Text

variable {c : Client} {call : Call} {request : Request} {path : String}
  {params : List (String × Query.Parameter)}

/-- A client keeps the base URL that it was made for. -/
theorem Constructed.parsed (h : c.Constructed) : ∃ given, Url.parse given = .ok c.url := by
  induction h with
  | made h => exact ⟨_, parse_of_make h⟩
  | header before h ih =>
      obtain ⟨headers, rfl⟩ := addHeader_eq h
      exact ih
  | noHeader before h ih =>
      obtain ⟨headers, rfl⟩ := removeHeader_eq h
      exact ih
  | token before token ih => exact ih
  | debug before debug ih => exact ih

/-- The call with this path and these parameters. -/
def asking (call : Call) (path : String) (params : List (String × Query.Parameter)) : Call :=
  { call with path := .text path, params := Query.given params }

/-- A path with a slash in front, unless it is empty. -/
def absolute (path : List Char) : List Char :=
  if path = [] ∨ path.head? = some '/' then path else '/' :: path

/-- A path behind the path of a base URL. -/
def place (base path : List Char) : List Char :=
  if base = [] ∧ path = [] then ['/'] else base ++ absolute path

theorem callPath_text (path : String) : callPath (.text path) = .ok (absolute path.toList) := by
  unfold callPath absolute
  dsimp only
  split
  · rename_i hnil
    rw [hnil]
    rfl
  · rename_i rest hslash
    rw [hslash]
    rfl
  · rename_i hnil hslash
    rw [if_neg]
    rintro (h | h)
    · exact hnil h
    · obtain ⟨rest, hrest⟩ := List.head?_eq_some_iff.mp h
      exact hslash rest hrest

theorem callQuery_given (params : List (String × Query.Parameter)) :
    callQuery (Query.given params)
      = .ok (if params = [] then [] else '?' :: Query.written (Query.spreadOut params)) := by
  cases params with
  | nil => rfl
  | cons param params =>
      have htruthy : (Query.given (param :: params)).truthy = true := rfl
      rw [callQuery, if_pos htruthy, Query.encode_given, if_neg (List.cons_ne_nil _ _)]
      rfl

theorem target_absolute (base path query : List Char) :
    target base (absolute path) query = place base path ++ query := by
  have hnil : base ++ absolute path = [] ↔ base = [] ∧ path = [] := by
    rw [List.append_eq_nil_iff, absolute]
    split
    · rfl
    · rename_i hrelative
      refine and_congr_right fun _ => iff_of_false (List.cons_ne_nil _ _) fun hnil => ?_
      exact hrelative (.inl hnil)
  unfold target place
  split
  · rename_i hnothing
    rw [if_pos (hnil.mp hnothing)]
  · rename_i hsome
    rw [if_neg fun h => hsome (hnil.mpr h)]

/-- What a target with this path and these parameters is read as. -/
structure Asks (c : Client) (path : String) (params : List (String × Query.Parameter))
    (target : List Char) : Prop where
  rooted : target.head? = some '/'
  bare : '#' ∉ target
  unmarked : '?' ∉ place c.url.path.toList path.toList
  /-- Without parameters there is no query. -/
  plain : params = [] → target = place c.url.path.toList path.toList
  query : params ≠ [] → ∃ query, target = place c.url.path.toList path.toList ++ '?' :: query
    ∧ Query.read query = some (Query.spreadOut params) ∧ ∀ mark ∈ query, Query.isQueryChar mark

theorem head?_place {base path : List Char} (hbase : ∀ mark, base.head? = some mark → mark = '/') :
    (place base path).head? = some '/' := by
  unfold place
  split
  · rfl
  · rename_i hsome
    cases base with
    | cons mark base => exact congrArg some (hbase mark rfl)
    | nil =>
        have hpath : path ≠ [] := fun hnil => hsome ⟨rfl, hnil⟩
        rw [List.nil_append, absolute]
        split
        · rename_i hslash
          exact hslash.resolve_left hpath
        · rfl

theorem not_mem_place {base path : List Char} {mark : Char} (hmark : mark ≠ '/')
    (hbase : mark ∉ base) (hpath : mark ∉ path) : mark ∉ place base path := by
  have habsolute : mark ∉ absolute path := by
    unfold absolute
    split
    · exact hpath
    · exact List.not_mem_cons_of_ne_of_not_mem hmark hpath
  unfold place
  split
  · exact List.not_mem_cons_of_ne_of_not_mem hmark List.not_mem_nil
  · exact fun h => (List.mem_append.mp h).elim hbase habsolute

theorem target_asking (h : c.build (asking call path params) = .ok request) :
    request.target.toList = place c.url.path.toList path.toList
      ++ if params = [] then [] else '?' :: Query.written (Query.spreadOut params) := by
  obtain ⟨cut, query, hcut, hquery, htarget⟩ := (built_of_build h).target
  cases (callPath_text path).symm.trans hcut
  cases (callQuery_given params).symm.trans hquery
  rw [htarget, target_absolute]

theorem asks_of_build (hc : c.Constructed) (hpath : ∀ mark ∈ path.toList, mark ≠ '?' ∧ mark ≠ '#')
    (h : c.build (asking call path params) = .ok request) :
    c.Asks path params request.target.toList := by
  obtain ⟨given, hparse⟩ := hc.parsed
  have hsound := Url.sound_of_parse hparse
  have hclean : ∀ mark, mark ≠ '/' → (mark = '?' ∨ mark = '#') →
      mark ∉ place c.url.path.toList path.toList := by
    intro mark hslash hmark
    refine not_mem_place hslash (fun hmem => ?_) (fun hmem => ?_)
    · have hbare := hsound.bare mark hmem
      exact hmark.elim hbare.1 hbare.2
    · have hbare := hpath mark hmem
      exact hmark.elim hbare.1 hbare.2
  have hquery : ∀ mark ∈ Query.written (Query.spreadOut params), Query.isQueryChar mark = true :=
    fun mark hmark => Query.isQueryChar_written hmark
  have hnumber :
      '#' ∉ (if params = [] then [] else '?' :: Query.written (Query.spreadOut params)) := by
    split
    · exact List.not_mem_nil
    · exact List.not_mem_cons_of_ne_of_not_mem (by decide) fun hmem =>
        absurd (hquery '#' hmem) (by decide)
  rw [target_asking h]
  refine ⟨?_, ?_, hclean '?' (by decide) (.inl rfl), ?_, ?_⟩
  · rw [List.head?_append, head?_place hsound.rooted]
    rfl
  · exact fun hmem => (List.mem_append.mp hmem).elim (hclean '#' (by decide) (.inr rfl)) hnumber
  · intro hnone
    rw [if_pos hnone, List.append_nil]
  · intro hsome
    exact ⟨_, by rw [if_neg hsome], Query.read_written _, hquery⟩

/-- A call with a path and parameters fails for its body or for its headers only. -/
theorem build_asking_iff : (∃ request, c.build (asking call path params) = .ok request)
    ↔ ∃ body headers, Payload.serialize call.body c.format = .ok body
      ∧ c.layerHeaders body call.headers = .ok headers := by
  constructor
  · rintro ⟨request, h⟩
    exact ⟨request.body, request.headers, (built_of_build h).body, (built_of_build h).headers⟩
  · rintro ⟨body, headers, hbody, hheaders⟩
    have hpath : callPath (asking call path params).path = .ok (absolute path.toList) :=
      callPath_text path
    have hquery : callQuery (asking call path params).params
        = .ok (if params = [] then [] else '?' :: Query.written (Query.spreadOut params)) :=
      callQuery_given params
    have hbody : Payload.serialize (asking call path params).body c.format = .ok body := hbody
    have hheaders : c.layerHeaders body (asking call path params).headers = .ok headers := hheaders
    rw [build, hpath, hquery, hbody]
    simp only [bind, Except.bind, hheaders]
    exact ⟨_, rfl⟩

/-- The target of a request is read as the path and the parameters of its call, and stands
at the end of its URL; a form is read as its parameters. -/
theorem asking_reads_back (hc : c.Constructed)
    (hpath : ∀ mark ∈ path.toList, mark ≠ '?' ∧ mark ≠ '#') (call : Call)
    (params : List (String × Query.Parameter)) :
    ((∃ request, c.build (asking call path params) = .ok request)
        ↔ ∃ body headers, Payload.serialize call.body c.format = .ok body
          ∧ c.layerHeaders body call.headers = .ok headers)
      ∧ (∀ request, c.build (asking call path params) = .ok request →
        c.Asks path params request.target.toList
          ∧ request.url = c.url.scheme.name ++ "://" ++ c.url.hostHeader ++ request.target)
      ∧ ∃ body form, Payload.serialize (Query.given params) .form = .ok body ∧ body ≠ some []
        ∧ body.getD [] = Utf8.encode form ∧ Query.read form = some (Query.spreadOut params)
        ∧ ∀ mark ∈ form, Query.isQueryChar mark := by
  refine ⟨build_asking_iff, fun request hbuild => ⟨asks_of_build hc hpath hbuild, ?_⟩, ?_⟩
  · rw [← String.toList_inj, url_of_build hbuild]
    simp only [Url.hostHeader, String.toList_append, String.toList_ofList]
  · obtain ⟨body, hbody, hnonempty, hbytes⟩ := Query.form_given params
    exact ⟨body, Query.written (Query.spreadOut params), hbody, hnonempty, hbytes,
      Query.read_written _, fun mark hmark => Query.isQueryChar_written hmark⟩

/-- A relative path, and parameters of which one has two texts. -/
theorem asking_reads_back_items :
    ∃ request, loopback.build (asking getRoot "items" [("a&b", .many ["=", "é"]), ("", .one "+")])
        = .ok request
      ∧ loopback.Asks "items" [("a&b", .many ["=", "é"]), ("", .one "+")] request.target.toList := by
  have hpath : ∀ mark ∈ "items".toList, mark ≠ '?' ∧ mark ≠ '#' :=
    Response.forall_mem_of_all (by decide)
  obtain ⟨hbuilds, hreads, -⟩ := asking_reads_back constructed_loopback hpath getRoot
    [("a&b", .many ["=", "é"]), ("", .one "+")]
  obtain ⟨request, hbuild⟩ := hbuilds.mpr ⟨none, _, rfl, rfl⟩
  exact ⟨request, hbuild, (hreads request hbuild).1⟩

end Courier.Client
