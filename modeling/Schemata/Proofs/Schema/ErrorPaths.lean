import Schemata.Proofs.Schema.Failing

/-!
# Where errors point

The path of an error leads from the value that is decoded to the part of it that was refused, the
culprit, or to the object that lacks a field. One culprit is no part of the value: the text of a
record's key. `Locates` says so of an error, and of each failure of a union's members from the
culprit on; `Schema.decode_error_located` says it of every error that decoding yields.
-/

namespace Schemata

namespace Value

/-- One step of a path: into an object by key, into an array by index. -/
def step? : PathSegment → Value → Option Value
  | .field name, value => value.get? name
  | .key k, value => value.get? k
  | .index i, .array items => items[i]?
  | .position i, .array items => items[i]?
  | _, _ => none

/-- The value that a path leads to, outermost segment first. -/
def follow? : List PathSegment → Value → Option Value
  | [], value => some value
  | segment :: path, value => (value.step? segment).bind (follow? path)

/-- A string has no parts. -/
theorem follow?_string_eq_some {path : List PathSegment} {text : String} {value : Value}
    (found : (Value.string text).follow? path = some value) : path = [] ∧ value = .string text := by
  cases path with
  | nil => exact ⟨rfl, (Option.some.inj found).symm⟩
  | cons segment path => cases segment <;> simp [follow?, step?, get?] at found

end Value

/-! ### Visits along a path -/

namespace Visit

variable {references : References} {limit : Nat}

/-- One visit leads to another by steps, whose segments make up a path. -/
inductive Reaches (references : References) (limit : Nat) :
    Visit → List PathSegment → Visit → Prop where
  /-- By no step. -/
  | refl {visit : Visit} : Reaches references limit visit [] visit
  /-- By a step before others. -/
  | step {visit next last : Visit} {segments path : List PathSegment}
    (first : Step references limit visit segments next)
    (others : Reaches references limit next path last) :
    Reaches references limit visit (segments ++ path) last

/-- The visit at the end of a path: that of the value found there or, where the path ends in an
entry of a record whose key was refused, that of the key as a string. -/
inductive Culprit (references : References) (limit : Nat) :
    Visit → List PathSegment → Visit → Prop where
  /-- The value found. -/
  | value {visit last : Visit} {path : List PathSegment}
    (reaches : Reaches references limit visit path last)
    (found : visit.value.follow? path = some last.value) : Culprit references limit visit path last
  /-- The key of an entry. -/
  | key {visit last : Visit} {path : List PathSegment} {levels : Nat} {place : Option Place}
    {key item : Node} {input : Entries Value} {k : String} {error : DecodeError}
    (reaches : Reaches references limit visit path
      ⟨levels + 1, .record place key item, .object input⟩)
    (found : visit.value.follow? path = some (.object input)) (among : k ∈ Entries.keys input)
    (rejected : decodeAt references limit levels key (.string k) = .error error)
    (toLast : Reaches references limit ⟨levels, key, .string k⟩ [] last)
    (text : last.value = .string k) : Culprit references limit visit (path ++ [.key k]) last

/-- An error of a visit points at its culprit. Its path has a segment for no more than each level to
go, and can be followed in the value; what is reported there is about the culprit. -/
inductive Locates (references : References) (limit : Nat) : Visit → DecodeError → Prop where
  /-- All but the last segment lead to an object, and the last is a field that it lacks. -/
  | absent {visit : Visit} {error : DecodeError} {path : List PathSegment} {name : String}
    {input : Entries Value} (short : error.path.length ≤ visit.levels)
    (path_eq : error.path = path ++ [.field name])
    (found : visit.value.follow? path = some (.object input))
    (missing : Entries.get? name input = none) (cause : error.cause = .requiredValue) :
    Locates references limit visit error
  /-- The path leads to a culprit that its node refuses. -/
  | own {visit last : Visit} {error : DecodeError} (short : error.path.length ≤ visit.levels)
    (culprit : Culprit references limit visit error.path last)
    (failed : last.decode references limit = .error error.cause)
    (about : error.cause.About last.value) : Locates references limit visit error
  /-- The path leads to a culprit that every member of a union refuses, each with an error that
  points on from there. -/
  | members {visit : Visit} {error : DecodeError} {levels : Nat} {place : Option Place}
    {members : List Node} {value : Value} {failures : List DecodeError}
    (short : error.path.length ≤ visit.levels)
    (culprit : Culprit references limit visit error.path ⟨levels, .union place members, value⟩)
    (cause : error.cause = .unionMismatch failures)
    (failed : List.Forall₂ (fun member failure ↦
      decodeAt references limit levels member value = .error failure) members failures)
    (each : ∀ member failure, (member, failure) ∈ members.zip failures →
      Locates references limit ⟨levels, member, value⟩ failure) :
    Locates references limit visit error

/-! ### One step -/

section Step

variable {visit next last : Visit} {segments path : List PathSegment}

/-- The segments of a step lead to the value that it goes to. -/
theorem Step.follow? (step : Step references limit visit segments next) :
    visit.value.follow? (segments ++ path) = next.value.follow? path := by
  cases step with
  | item found => simp [Value.follow?, Value.step?, found]
  | element _ found => simp [Value.follow?, Value.step?, found]
  | field _ found => simp [Value.follow?, Value.step?, Value.get?, found]
  | entry found _ => simp [Value.follow?, Value.step?, Value.get?, found]
  | variant | optional | transform | lazy => rfl

/-- A step with a segment takes a level. -/
theorem Step.length_le (step : Step references limit visit segments next) :
    segments.length + next.levels ≤ visit.levels := by
  cases step <;> simp [Nat.add_comm]

/-- A step goes one level deeper, or to a child on the same level. -/
theorem Step.descends (step : Step references limit visit segments next) :
    next.levels < visit.levels
      ∨ (next.levels = visit.levels ∧ next.node ∈ visit.node.children) := by
  cases step with
  | item | element | field | entry | lazy => exact .inl (Nat.lt_succ_self _)
  | variant _ found =>
    exact .inr ⟨rfl, List.mem_map.2 ⟨_, Entries.mem_of_get?_eq_some found, rfl⟩⟩
  | optional | transform => exact .inr ⟨rfl, List.mem_singleton.2 rfl⟩

theorem Step.wellFormed (step : Step references limit visit segments next)
    (formed : visit.value.WellFormed) : next.value.WellFormed := by
  cases step with
  | item found => exact Value.wellFormed_array_iff.1 formed _ (List.mem_of_getElem? found)
  | element _ found => exact Value.wellFormed_array_iff.1 formed _ (List.mem_of_getElem? found)
  | field _ found => exact formed.of_get? found
  | entry found _ => exact formed.of_get? found
  | variant | optional | transform | lazy => exact formed

theorem Culprit.of_step (step : Step references limit visit segments next)
    (culprit : Culprit references limit next path last) :
    Culprit references limit visit (segments ++ path) last := by
  cases culprit with
  | value reaches found => exact .value (reaches.step step) (step.follow?.trans found)
  | key reaches found among rejected toLast text =>
    rw [← List.append_assoc]
    exact .key (reaches.step step) (step.follow?.trans found) among rejected toLast text

/-- An error that points at a culprit does so from one step before. -/
theorem Locates.of_step {error inner : DecodeError}
    (step : Step references limit visit segments next)
    (located : Locates references limit next inner)
    (path_eq : error.path = segments ++ inner.path) (cause_eq : error.cause = inner.cause) :
    Locates references limit visit error := by
  have short (le : inner.path.length ≤ next.levels) : error.path.length ≤ visit.levels := by
    have taken := step.length_le
    rw [path_eq, List.length_append]
    omega
  cases located with
  | absent le innerPath found missing cause =>
    exact .absent (short le) (by rw [path_eq, innerPath, List.append_assoc])
      (step.follow?.trans found) missing (cause_eq.trans cause)
  | own le culprit failed about =>
    rw [← cause_eq] at failed about
    exact .own (short le) (path_eq ▸ culprit.of_step step) failed about
  | members le culprit cause failed each =>
    exact .members (short le) (path_eq ▸ culprit.of_step step) (cause_eq.trans cause) failed each

end Step

/-! ### Keys -/

section Key

variable {levels : Nat} {place : Option Place} {key item : Node} {input : Entries Value}
  {k : String} {error : DecodeError}

/-- The culprit below the text of a key is that text, and it is the culprit of the record. -/
theorem Culprit.of_key (among : k ∈ Entries.keys input)
    (rejected : decodeAt references limit levels key (.string k) = .error error)
    {path : List PathSegment} {last : Visit}
    (culprit : Culprit references limit ⟨levels, key, .string k⟩ path last) :
    path = [] ∧ Culprit references limit ⟨levels + 1, .record place key item, .object input⟩
      [.key k] last := by
  cases culprit with
  | value reaches found =>
    obtain ⟨rfl, text⟩ := Value.follow?_string_eq_some found
    exact ⟨rfl, .key .refl rfl among rejected reaches text⟩
  | key _ found => cases (Value.follow?_string_eq_some found).2

/-- An error that points at the text of a key points at it from the record. -/
theorem Locates.of_key (among : k ∈ Entries.keys input)
    (rejected : decodeAt references limit levels key (.string k) = .error error)
    (located : Locates references limit ⟨levels, key, .string k⟩ error) :
    Locates references limit ⟨levels + 1, .record place key item, .object input⟩
      (.within (.key k) error) := by
  cases located with
  | absent _ _ found => cases (Value.follow?_string_eq_some found).2
  | own _ culprit failed about =>
    obtain ⟨nil, here⟩ := culprit.of_key among rejected
    exact .own (by simp [nil]) (by simpa [nil] using here) failed about
  | members _ culprit cause failed each =>
    obtain ⟨nil, here⟩ := culprit.of_key among rejected
    exact .members (by simp [nil]) (by simpa [nil] using here) cause failed each

end Key

/-! ### All steps -/

/-- A node that refuses its value is where the error points. -/
theorem Locates.of_about {visit : Visit} {error : DecodeError}
    (failed : visit.decode references limit = .error error) (about : error.About visit.value) :
    Locates references limit visit error := by
  have path := about.path_eq_nil
  have cause := about.cause_eq
  refine .own (by simp [path]) ?_ (by rw [cause, failed]) (by rwa [cause])
  rw [path]
  exact .value .refl rfl

/-- What each of the ways to fail reports points at its culprit, if the errors of what is visited
next do. -/
theorem Locates.of_failure {visit : Visit} {error : DecodeError}
    (failed : visit.decode references limit = .error error)
    (failure : Failure references limit visit error) (formed : visit.value.WellFormed)
    (deeper : ∀ next : Visit, next.levels < visit.levels → next.value.WellFormed → ∀ inner,
      next.decode references limit = .error inner → Locates references limit next inner)
    (here : ∀ next : Visit, next.levels = visit.levels → next.node ∈ visit.node.children →
      next.value.WellFormed → ∀ inner, next.decode references limit = .error inner →
        Locates references limit next inner) :
    Locates references limit visit error := by
  cases failure with
  | own about => exact .of_about failed about
  | step step failed path cause =>
    refine .of_step step ?_ path cause
    rcases step.descends with lower | ⟨same, child⟩
    · exact deeper _ lower (step.wellFormed formed) _ failed
    · exact here _ same child (step.wellFormed formed) _ failed
  | absent _ _ missing =>
    refine .absent ?_ (show _ = [] ++ [_] from rfl) rfl missing rfl
    simp [DecodeError.path]
  | key among rejected =>
    exact .of_key among rejected
      (deeper ⟨_, _, .string _⟩ (Nat.lt_succ_self _) (by simp [Value.WellFormed]) _ rejected)
  | members each =>
    refine .members (Nat.zero_le _) (.value .refl rfl) rfl each fun member failure pair ↦ ?_
    exact here ⟨_, member, _⟩ rfl (List.of_mem_zip pair).1 formed failure
      (List.forall₂_zip each pair)

/-- Every error of a visit points at its culprit. -/
theorem locates_of_decode {visit : Visit} (formed : visit.value.WellFormed) {error : DecodeError}
    (failed : visit.decode references limit = .error error) :
    Locates references limit visit error := by
  obtain ⟨levels, node, value⟩ := visit
  induction levels using Nat.strongRecOn generalizing node value error with
  | ind levels deeper =>
    induction node using Node.induction generalizing value error with
    | step node ih =>
      refine .of_failure failed (failure_of_decode formed failed) formed ?_ ?_
      · exact fun next lower formed _ failed ↦ deeper next.levels lower _ _ formed failed
      · rintro ⟨_, child, value⟩ rfl among formed _ failed
        exact ih child among value formed failed

end Visit

/-- Every error that decoding yields points at its culprit. -/
theorem Schema.decode_error_located {schema : Schema} {value : Value} {maxDepth : Nat}
    {error : DecodeError} (formed : value.WellFormed)
    (failed : schema.decode value maxDepth = .error error) :
    Visit.Locates schema.references maxDepth ⟨maxDepth, schema.root, value⟩ error :=
  Visit.locates_of_decode formed failed

/-- A service with ports: each is named by one of two protocols, and is a number or a switch. -/
def Schema.service : Schema where
  root := .struct none
    [("ports", .record none (.literal ⟨[.string "http", .string "ssh"], by simp, by decide⟩)
      (.union none [.integer {}, .boolean]))] .reject
  references := []

/-- A service with one port. -/
def Value.service (protocol : String) (port : Value) : Value :=
  .object [("ports", .object [(protocol, port)])]

/-- A port that is neither number nor switch and a protocol that is none of the two: the paths are
alike, and one error is about the port, the other about the name of the protocol. -/
theorem Schema.decode_error_located_service :
    (∃ error, Schema.service.decode (.service "http" (.string "open")) 2 = .error error
        ∧ error.path = [.field "ports", .key "http"]
        ∧ error.cause =
          .unionMismatch [.typeMismatch .integer .string, .typeMismatch .boolean .string]
        ∧ Visit.Locates Schema.service.references 2
          ⟨2, Schema.service.root, .service "http" (.string "open")⟩ error)
      ∧ ∃ error, Schema.service.decode (.service "ftp" (.bool true)) 2 = .error error
        ∧ error.path = [.field "ports", .key "ftp"]
        ∧ error.cause = .constraint (.notListed [.string "http", .string "ssh"])
        ∧ Visit.Locates Schema.service.references 2
          ⟨2, Schema.service.root, .service "ftp" (.bool true)⟩ error := by
  have formed (protocol : String) (port : Value) (scalar : port.WellFormed) :
      (Value.service protocol port).WellFormed := by
    simp [Value.service, Value.WellFormed, Value.WellFormedEntries, Entries.Distinct, scalar]
  refine ⟨⟨_, rfl, rfl, rfl, ?_⟩, ⟨_, rfl, rfl, rfl, ?_⟩⟩
  · exact decode_error_located (formed "http" (.string "open") (by simp [Value.WellFormed])) rfl
  · exact decode_error_located (formed "ftp" (.bool true) (by simp [Value.WellFormed])) rfl

end Schemata
