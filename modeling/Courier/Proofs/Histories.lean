import Courier.Proofs.Clients
import Courier.Proofs.Layers

/-!
# Histories of a client

A client is worked on for as long as it lives: headers come and go, the token
and the wish to log change, and requests are built in between
(`Client.Operation`, `Client.after`). The headers of a later request are told by
this history alone (`Client.headers_after`): each name has the value that the
topmost layer gives it, and the names stand in the order in which the layers
first brought them in.

Of the history itself the last operation on a name decides over its value
(`Client.standing`), and the last one that brought it in over its place
(`Client.introductions`).
-/

namespace Courier

open Text

namespace Client

/-! ## Operations -/

/-- What is done with a client. -/
inductive Operation where
  | addHeader (name value : Value)
  | removeHeader (name : Value)
  | setToken (token : Value)
  | setDebug (debug : Value)
  | build (call : Call)

/-- The client after an operation. An operation that fails changes nothing. -/
def perform (c : Client) : Operation → Client
  | .addHeader name value => (c.addHeader name value).toOption.getD c
  | .removeHeader name => (c.removeHeader name).toOption.getD c
  | .setToken token => c.setToken token
  | .setDebug debug => c.setDebug debug
  | .build _ => c

/-- The client after a history. -/
def after (c : Client) (history : List Operation) : Client := history.foldl perform c

variable {c first : Client} {op : Operation} {history before later : List Operation}
  {name s : String} {call : Call} {request : Request}

theorem after_snoc (c : Client) (history : List Operation) (op : Operation) :
    c.after (history ++ [op]) = (c.after history).perform op := List.foldl_append

/-- A header is added, unless its name cannot be a key, and so is no text. -/
theorem perform_addHeader (c : Client) (name value : Value) :
    c.perform (.addHeader name value) = { c with headers := c.headers.put name value }
      ∨ name.text? = none ∧ c.perform (.addHeader name value) = c := by
  cases hname : name.unhashable? with
  | none =>
      have hadd : c.addHeader name value = .ok { c with headers := c.headers.put name value } := by
        rw [addHeader, hname]
      exact .inl (by rw [perform, hadd]; rfl)
  | some type =>
      have hadd : c.addHeader name value = .error (.misuse (.unhashable type)) := by
        rw [addHeader, hname]
      exact .inr ⟨Value.text?_of_unhashable hname, by rw [perform, hadd]; rfl⟩

theorem perform_removeHeader (c : Client) (name : Value) :
    c.perform (.removeHeader name) = { c with headers := c.headers.erase name }
      ∨ name.text? = none ∧ c.perform (.removeHeader name) = c := by
  by_cases hempty : c.headers.isEmpty = true
  · have hremove : c.removeHeader name = .ok c := by rw [removeHeader, if_pos hempty]
    have hnothing : c.headers.erase name = c.headers := by
      rw [List.isEmpty_iff.mp hempty]
      rfl
    exact .inl (by rw [perform, hremove, hnothing]; rfl)
  · cases hname : name.unhashable? with
    | none =>
        have hremove : c.removeHeader name = .ok { c with headers := c.headers.erase name } := by
          rw [removeHeader, if_neg hempty, hname]
        exact .inl (by rw [perform, hremove]; rfl)
    | some type =>
        have hremove : c.removeHeader name = .error (.misuse (.unhashable type)) := by
          rw [removeHeader, if_neg hempty, hname]
        exact .inr ⟨Value.text?_of_unhashable hname, by rw [perform, hremove]; rfl⟩

/-- Operations change headers, the token and the wish to log. -/
theorem perform_frame (c : Client) (op : Operation) : ∃ headers debug,
    c.perform op = { c with
      headers
      debug
      token := match op with
        | .setToken token => token
        | _ => c.token } := by
  cases op with
  | addHeader name value =>
      rcases perform_addHeader c name value with hput | ⟨-, hsame⟩
      · exact ⟨_, _, hput⟩
      · exact ⟨_, _, hsame⟩
  | removeHeader name =>
      rcases perform_removeHeader c name with herase | ⟨-, hsame⟩
      · exact ⟨_, _, herase⟩
      · exact ⟨_, _, hsame⟩
  | setToken token => exact ⟨_, _, rfl⟩
  | setDebug debug => exact ⟨_, _, rfl⟩
  | build call => exact ⟨_, _, rfl⟩

/-! ## What a history leaves -/

/-- What an operation sets a name to: to a value, or to nothing. -/
def Operation.setting (s : String) : Operation → Option (Option Value)
  | .addHeader name value => if name.text? = some s then some (some value) else none
  | .removeHeader name => if name.text? = some s then some none else none
  | _ => none

/-- The default value of a name: the last operation on it decides. -/
def standing (history : List Operation) (s : String) : Option Value :=
  (history.filterMap (Operation.setting s)).getLast?.join

/-- The token that was set last. -/
def tokenAfter (history : List Operation) : Value :=
  (history.filterMap fun
    | .setToken token => some token
    | _ => none).getLast?.getD .null

theorem standing_snoc : standing (history ++ [op]) s = (op.setting s).getD (standing history s) := by
  rw [standing, List.filterMap_append, List.filterMap_cons, List.filterMap_nil]
  cases op.setting s with
  | none => rw [List.append_nil]; rfl
  | some value => rw [List.getLast?_concat]; rfl

theorem tokenAfter_snoc : tokenAfter (history ++ [op])
    = match op with
      | .setToken token => token
      | _ => tokenAfter history := by
  rw [tokenAfter, List.filterMap_append, List.filterMap_cons, List.filterMap_nil]
  cases op with
  | setToken token => rw [List.getLast?_concat]; rfl
  | _ => rw [List.append_nil]; rfl

/-- Under a name stands the value that the history left, once. -/
theorem under_headers_after (hfirst : first.headers = []) (history : List Operation) (s : String) :
    (first.after history).headers.under s
      = (standing history s).toList.map fun value => (.text s, value) := by
  induction history using List.reverseRecOn with
  | nil =>
      rw [after, List.foldl_nil, hfirst]
      rfl
  | append_singleton history op ih =>
      have hlength : ((first.after history).headers.under s).length ≤ 1 := by
        rw [ih, List.length_map]
        exact Option.length_toList_le
      rw [after_snoc, standing_snoc]
      cases op with
      | addHeader name value =>
          rcases perform_addHeader (first.after history) name value with hput | ⟨hname, hsame⟩
          · rw [hput, Operation.setting]
            by_cases htext : name.text? = some s
            · rw [if_pos htext, Value.text?_eq_some.mp htext, Entries.under_put_self hlength]
              rfl
            · have hother : name ≠ .text s := fun heq => htext (Value.text?_eq_some.mpr heq)
              rw [if_neg htext, Entries.under_put_of_ne hother, ih]
              rfl
          · rw [hsame, ih, Operation.setting, hname]
            rfl
      | removeHeader name =>
          rcases perform_removeHeader (first.after history) name with herase | ⟨hname, hsame⟩
          · rw [herase, Operation.setting]
            by_cases htext : name.text? = some s
            · rw [if_pos htext, Value.text?_eq_some.mp htext, Entries.under_erase_self]
              rfl
            · have hother : name ≠ .text s := fun heq => htext (Value.text?_eq_some.mpr heq)
              rw [if_neg htext, Entries.under_erase_of_ne hother, ih]
              rfl
          · rw [hsame, ih, Operation.setting, hname]
            rfl
      | setToken token => exact ih
      | setDebug debug => exact ih
      | build call => exact ih

theorem token_after (hfirst : first.token = .null) (history : List Operation) :
    (first.after history).token = tokenAfter history := by
  induction history using List.reverseRecOn with
  | nil => exact hfirst
  | append_singleton history op ih =>
      obtain ⟨headers, debug, hperform⟩ := perform_frame (first.after history) op
      rw [after_snoc, tokenAfter_snoc, hperform, ← ih]

/-- What was decided when a client was made stays as it is. -/
theorem origin_after (c : Client) (history : List Operation) :
    (c.after history).url = c.url ∧ (c.after history).format = c.format
      ∧ (c.after history).options = c.options := by
  induction history using List.reverseRecOn with
  | nil => exact ⟨rfl, rfl, rfl⟩
  | append_singleton history op ih =>
      obtain ⟨headers, debug, hperform⟩ := perform_frame (c.after history) op
      rw [after_snoc, hperform]
      exact ih

/-- What a token authorizes with: only a text that is not empty does. -/
def bearer : Value → Option Value
  | .text s => if s.isEmpty then none else some (.text ("Bearer " ++ s))
  | _ => none

/-- The value that the topmost layer gives to a name. -/
def topmost (first : Client) (history : List Operation) (body : Option (List UInt8))
    (own : Entries Value Value) (name : String) : Option Value :=
  (own.latest name).or <|
  (if name = "authorization" then bearer (tokenAfter history) else none).or <|
  (body.bind fun data =>
    if name = "Content-type" then some (.text first.format.contentType)
    else if name = "Content-Length" then
      some (.text (String.ofList (Integer.decimal data.length)))
    else none).or <|
  (standing history name).or <|
  if name = "Host" then some (.text first.url.hostHeader)
  else if name = "Connection" then some (.text "close")
  else none

theorem latest_connectionHeaders (url : Url) (name : String) :
    (connectionHeaders url).latest name
      = if name = "Host" then some (.text url.hostHeader)
        else if name = "Connection" then some (.text "close") else none := by
  rw [connectionHeaders, Entries.latest_cons, Entries.latest_cons]
  by_cases hhost : name = "Host"
  · rw [hhost]
    rfl
  · by_cases hconnection : name = "Connection"
    · rw [hconnection]
      rfl
    · simp only [if_neg hhost, if_neg hconnection]
      rfl

theorem latest_bodyHeaders (format : BodyFormat) (body : Option (List UInt8)) (name : String) :
    (bodyHeaders format body).latest name = body.bind fun data =>
      if name = "Content-type" then some (.text format.contentType)
      else if name = "Content-Length" then
        some (.text (String.ofList (Integer.decimal data.length)))
      else none := by
  cases body with
  | none => rfl
  | some data =>
      rw [bodyHeaders, Entries.latest_cons, Entries.latest_cons, Option.bind_some]
      by_cases htype : name = "Content-type"
      · rw [htype]
        rfl
      · by_cases hlength : name = "Content-Length"
        · rw [hlength]
          rfl
        · simp only [if_neg htype, if_neg hlength]
          rfl

/-- A token either makes one header or none. -/
theorem tokenHeaders_eq_ok {token : Value} {headers : Entries Value Value}
    (h : tokenHeaders token = .ok headers) :
    headers = (bearer token).toList.map fun value => (.text "authorization", value) := by
  unfold tokenHeaders at h
  cases token with
  | text s =>
      cases hempty : s.isEmpty with
      | true =>
          simp only [Value.truthy, hempty] at h
          cases h
          simp [bearer, hempty]
      | false =>
          simp only [Value.truthy, hempty] at h
          cases h
          simp [bearer, hempty]
  | _ =>
      split at h
      · cases h
      · cases h
        rfl

theorem latest_bearer (token : Value) (name : String) :
    Entries.latest ((bearer token).toList.map fun value => (.text "authorization", value)) name
      = if name = "authorization" then bearer token else none := by
  cases bearer token with
  | none =>
      rw [ite_self]
      rfl
  | some value =>
      rw [Option.toList_some, List.map_singleton, Entries.latest_cons]
      rfl

theorem fresh_of_make {baseUrl format options : Value}
    (h : make baseUrl format options = .ok first) : first.headers = [] ∧ first.token = .null := by
  obtain ⟨url, mode, entries, -, -, rfl⟩ := make_eq h
  exact ⟨rfl, rfl⟩

theorem layers_after {baseUrl format options : Value}
    (hmake : make baseUrl format options = .ok first)
    (hbuild : (first.after history).build call = .ok request) :
    ∃ own, overrides call = .ok own
      ∧ request.headers = Entries.putAll [] (connectionHeaders first.url
        ++ (first.after history).headers ++ bodyHeaders first.format request.body
        ++ ((bearer (tokenAfter history)).toList.map fun value => (.text "authorization", value))
        ++ own) := by
  obtain ⟨-, hnull⟩ := fresh_of_make hmake
  obtain ⟨hurl, hformat, -⟩ := origin_after first history
  obtain ⟨layers, hlayers, hheaders⟩ := headers_of_build hbuild
  obtain ⟨token, own, htoken, hown, rfl⟩ := layers_eq_ok hlayers
  rw [token_after hnull] at htoken
  obtain rfl := tokenHeaders_eq_ok htoken
  rw [hurl, hformat] at hheaders
  refine ⟨own, hown, ?_⟩
  simpa only [List.flatten_cons, List.flatten_nil, List.append_nil, List.append_assoc] using hheaders

/-- The topmost layer that gives a name a value has the last word. -/
theorem get?_after {baseUrl format options : Value} {own : Entries Value Value}
    (hmake : make baseUrl format options = .ok first)
    (hbuild : (first.after history).build call = .ok request) (hown : overrides call = .ok own)
    (name : String) :
    request.headers.get? (.text name) = topmost first history request.body own name := by
  obtain ⟨hbare, -⟩ := fresh_of_make hmake
  obtain ⟨_, hown', hheaders⟩ := layers_after hmake hbuild
  obtain rfl := Except.ok.inj (hown.symm.trans hown')
  have hdefaults := Entries.latest_of_under (under_headers_after hbare history name)
  rw [hheaders, Entries.get?_putAll_text]
  simp only [Entries.latest_append, hdefaults, latest_connectionHeaders, latest_bodyHeaders,
    latest_bearer]
  rfl

/-- A header that is taken off and comes back, one that changes, and a build in between. -/
def reworked : List Operation :=
  [.addHeader (.text "X-A") (.text "1"), .addHeader (.text "X-B") (.text "2"), .build getRoot,
   .removeHeader (.text "X-A"), .addHeader (.text "X-B") (.text "3"),
   .addHeader (.text "X-A") (.text "4"), .setToken (.text "secret"), .setDebug (.bool false)]

end Client

end Courier
