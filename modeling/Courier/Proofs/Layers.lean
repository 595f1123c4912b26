import Courier.Proofs.Taxonomy

/-!
# Headers in layers

The headers of a request are laid over each other: the connection's own, the
defaults, those of the body, the authorization, and those of the call
(`Client.layers`, `Client.headers_of_build`). Names are taken as they are
spelled, and of each spelling the latest setting is left.

Whoever reads names in any letter case may so find several headers of one
name. There is one at most if and only if the layers that set the name agree on
its spelling, and then it is the latest setting (`Client.layered_of_build`).
-/

namespace Courier.Client

open Text

variable {c : Client} {call : Call} {request : Request} {entries : Entries Value Value}
  {header : Value × Value} {name spelling : String}

/-! ## Layers -/

/-- The headers of the call itself, if it has any. -/
def overrides (call : Call) : Except Failure (Entries Value Value) :=
  if call.headers.truthy then call.headers.toPairs else .ok []

/-- The layers of headers of a call with such a body, the first one first. -/
def layers (c : Client) (call : Call) (body : Option (List UInt8)) :
    Except Failure (List (Entries Value Value)) := do
  let token ← tokenHeaders c.token
  let overrides ← overrides call
  .ok [connectionHeaders c.url, c.headers, bodyHeaders c.format body, token, overrides]

theorem layers_eq_ok {body : Option (List UInt8)} {layers : List (Entries Value Value)}
    (h : c.layers call body = .ok layers) :
    ∃ token own, tokenHeaders c.token = .ok token ∧ overrides call = .ok own
      ∧ layers = [connectionHeaders c.url, c.headers, bodyHeaders c.format body, token, own] := by
  obtain ⟨token, htoken, h⟩ := bind_eq_ok h
  obtain ⟨own, hown, h⟩ := bind_eq_ok h
  cases h
  exact ⟨token, own, htoken, hown, rfl⟩

theorem putInto_eq (entries : Entries Value Value) :
    call.headers.putInto entries = (overrides call).map entries.putAll := by
  unfold Value.putInto overrides
  split <;> rfl

theorem layerHeaders_eq_ok {body : Option (List UInt8)}
    (h : c.layerHeaders body call.headers = .ok entries) :
    ∃ layers, c.layers call body = .ok layers ∧ entries = Entries.putAll [] layers.flatten := by
  have hfirst : Entries.putAll [] (connectionHeaders c.url) = connectionHeaders c.url := rfl
  obtain ⟨token, htoken, h⟩ := bind_eq_ok h
  rw [putInto_eq] at h
  obtain ⟨overrides, hoverrides, rfl⟩ := map_eq_ok h
  refine ⟨[connectionHeaders c.url, c.headers, bodyHeaders c.format body, token, overrides], ?_, ?_⟩
  · rw [layers, htoken, hoverrides]
    rfl
  · simp only [List.flatten_cons, List.flatten_nil, Entries.putAll_append, hfirst]
    rfl

theorem headers_of_build (h : c.build call = .ok request) :
    ∃ layers, c.layers call request.body = .ok layers
      ∧ request.headers = Entries.putAll [] layers.flatten :=
  layerHeaders_eq_ok (built_of_build h).headers

/-! ## Names in any letter case -/

/-- The header has this name, in whatever letter case. -/
def spells (name : String) (header : Value × Value) : Bool :=
  match header.1 with
  | .text spelling => lower spelling.toList == lower name.toList
  | _ => false

theorem spells_iff : spells name header = true
    ↔ ∃ spelling, header.1 = .text spelling ∧ lower spelling.toList = lower name.toList := by
  unfold spells
  split
  · rename_i spelling hkey
    simp [hkey]
  · rename_i hkey
    simp only [Bool.false_eq_true, false_iff, not_exists, not_and]
    exact fun spelling htext => absurd htext (hkey spelling)

/-- The settings of a name in any letter case, the latest one last. -/
def settings (layers : List (Entries Value Value)) (name : String) : Entries Value Value :=
  layers.flatten.filter (spells name)

/-- All who set the name spell it in one way. -/
def Agree (layers : List (Entries Value Value)) (name : String) : Prop :=
  ∀ one ∈ settings layers name, ∀ other ∈ settings layers name, one.1 = other.1

/-- What layers make of a name. -/
structure Layered (layers : List (Entries Value Value)) (headers : Entries Value Value)
    (name : String) : Prop where
  /-- Of this very spelling the latest setting is left, and no other. -/
  exact : headers.under name = (Entries.under layers.flatten name).getLast?.toList
  /-- In any letter case the name is there once at most if and only if it is
  spelled in one way. -/
  once_iff : (headers.filter (spells name)).length ≤ 1 ↔ Agree layers name
  /-- Then the latest of its settings is left. -/
  latest : Agree layers name → headers.filter (spells name) = (settings layers name).getLast?.toList

theorem filter_spells_eq_under (hspells : lower spelling.toList = lower name.toList)
    (h : ∀ header ∈ entries, spells name header = true → header.1 = .text spelling) :
    entries.filter (spells name) = entries.under spelling := by
  refine List.filter_congr fun header hheader => Bool.eq_iff_iff.mpr ?_
  rw [Value.beq_text]
  refine ⟨h header hheader, fun hkey => spells_iff.mpr ⟨spelling, hkey, hspells⟩⟩

variable {layers : List (Entries Value Value)}

/-- A name that is spelled in one way is left as it was set last. -/
theorem latest_of_agree (h : Agree layers name) :
    (Entries.putAll [] layers.flatten).filter (spells name)
      = (settings layers name).getLast?.toList := by
  have hset : ∀ header ∈ Entries.putAll [] layers.flatten, spells name header = true →
      ∃ setting ∈ settings layers name, setting.1 = header.1 := by
    intro header hheader hspells
    obtain ⟨setting, hsetting, hkey⟩ := Entries.key_of_mem_putAll hheader
    refine ⟨setting, List.mem_filter.mpr ⟨hsetting, ?_⟩, hkey⟩
    rw [spells_iff] at hspells ⊢
    rwa [hkey]
  cases hsettings : settings layers name with
  | nil =>
      refine List.filter_eq_nil_iff.mpr fun header hheader hspells => ?_
      obtain ⟨setting, hsetting, -⟩ := hset header hheader hspells
      rw [hsettings] at hsetting
      cases hsetting
  | cons first more =>
      have hfirst : first ∈ settings layers name := by
        rw [hsettings]
        exact List.mem_cons_self ..
      obtain ⟨spelling, htext, hlower⟩ := spells_iff.mp (List.mem_filter.mp hfirst).2
      have hsame : settings layers name = Entries.under layers.flatten spelling :=
        filter_spells_eq_under hlower fun header hheader hspells =>
          (h _ (List.mem_filter.mpr ⟨hheader, hspells⟩) _ hfirst).trans htext
      rw [← hsettings, hsame, ← Entries.under_putAll]
      refine filter_spells_eq_under hlower fun header hheader hspells => ?_
      obtain ⟨setting, hsetting, hkey⟩ := hset header hheader hspells
      exact hkey.symm.trans ((h _ hsetting _ hfirst).trans htext)

/-- Whoever sets a name leaves a header of this spelling. -/
theorem header_of_setting (h : header ∈ settings layers name) :
    ∃ left ∈ (Entries.putAll [] layers.flatten).filter (spells name), left.1 = header.1 := by
  obtain ⟨hmem, hspells⟩ := List.mem_filter.mp h
  obtain ⟨spelling, hkey, hlower⟩ := spells_iff.mp hspells
  obtain ⟨left, hleft, hsame⟩ := Entries.left_of_put hmem hkey
  exact ⟨left, List.mem_filter.mpr ⟨hleft, spells_iff.mpr ⟨spelling, hsame, hlower⟩⟩,
    hsame.trans hkey.symm⟩

theorem agree_of_length_le_one
    (h : ((Entries.putAll [] layers.flatten).filter (spells name)).length ≤ 1) :
    Agree layers name := by
  intro one hone other hother
  obtain ⟨left, hleft, hkey⟩ := header_of_setting hone
  obtain ⟨right, hright, hkey'⟩ := header_of_setting hother
  obtain ⟨only, honly⟩ := List.length_eq_one_iff.mp
    (Nat.le_antisymm h (List.length_pos_of_mem hleft))
  rw [honly, List.mem_singleton] at hleft hright
  rw [← hkey, ← hkey', hleft, hright]

/-- Whatever the name, it is left as the layers set it last, once if they agree on its spelling. -/
theorem layered_of_build (h : c.build call = .ok request) :
    ∃ layers, c.layers call request.body = .ok layers
      ∧ ∀ name, Layered layers request.headers name := by
  obtain ⟨layers, hlayers, hheaders⟩ := headers_of_build h
  refine ⟨layers, hlayers, fun name => ?_⟩
  rw [hheaders]
  refine ⟨Entries.under_putAll _ _, ⟨agree_of_length_le_one, fun hagree => ?_⟩, latest_of_agree⟩
  rw [latest_of_agree hagree]
  exact Option.length_toList_le

/-- A client with a token. -/
def authorized : Client := loopback.setToken (.text "secret")

/-- A call that brings an authorization of its own, spelled in another way. -/
def authorizing : Call where
  method := .text "GET"
  path := .text "/"
  headers := .map [(.text "Authorization", .text "Basic dTpw")]

theorem layered_of_build_authorizing :
    ∃ request, authorized.build authorizing = .ok request
      ∧ ∃ layers, authorized.layers authorizing request.body = .ok layers
        ∧ ∀ name, Layered layers request.headers name := ⟨_, rfl, layered_of_build rfl⟩

/-- The request has the token and what the call set in its place. -/
theorem not_single_authorizing :
    authorized.Constructed ∧ ∃ request, authorized.build authorizing = .ok request
      ∧ request.headers.filter (spells "authorization")
        = [(.text "authorization", .text "Bearer secret"),
          (.text "Authorization", .text "Basic dTpw")]
      ∧ ¬ (request.headers.filter (spells "authorization")).length ≤ 1 := by
  refine ⟨constructed_loopback.token _, _, rfl, rfl, ?_⟩
  decide

end Courier.Client
