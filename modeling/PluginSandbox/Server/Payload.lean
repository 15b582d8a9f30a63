/-
  The input of an execute request, against its body.

  `encoding/json` is split in two: `parse`, a parameter, is its syntax, and `unmarshalExecute`
  its decoding of a value into an `ExecuteRequest`. Members are matched by name regardless of
  case, unknown ones are skipped, `null` stores nothing, a value of another type makes the
  whole decoding fail, and a later string replaces an earlier one.

  `intendedInput` is what a body asks for. `engineInput_intended_iff`: the engine is handed it
  exactly for a body that could be read and is neither blank nor mixed. A blank body is a `null`
  or an object that holds nothing as `input_json`; it is replaced by `{}`, as is one that breaks
  off. A mixed one holds a string and a value of another type under the name; the type error
  discards the string.
-/
import PluginSandbox.Server.Progress

namespace PluginSandbox.Server

open PluginSandbox.Lib PluginSandbox.Db PluginSandbox.Sandbox

/-! ## Values and their decoding -/

/-- A JSON value. Strings are decoded; members come in the order of the text. -/
inductive JsonValue where
  | null
  | bool (b : Bool)
  | number (literal : String)
  | string (s : Bytes)
  | array (items : List JsonValue)
  | object (members : List (String × JsonValue))

abbrev Member := String × JsonValue

/-- The folding of a letter; the long s is an `S` too. -/
def foldRune (c : Char) : Char := if c = 'ſ' then 's' else c.toLower

/-- The member is taken for the field `json:"input_json"`. -/
def isInputJSON (name : String) : Bool := name.toList.map foldRune == "input_json".toList

/-- `InputJSON` while an object is decoded, and whether an error was saved. -/
structure Decoded where
  inputJSON : Bytes
  failed : Bool

def decodeMember (d : Decoded) (m : Member) : Decoded :=
  if isInputJSON m.1 then
    match m.2 with
    | .string s => { d with inputJSON := s }
    | .null => d
    | _ => { d with failed := true }
  else d

/-- `json.Unmarshal(bodyBytes, &jsonReq)`: the `InputJSON` it stores, `none` on an error. -/
def unmarshalExecute (parse : Bytes → Option JsonValue) (bodyBytes : Bytes) : Option Bytes :=
  match parse bodyBytes with
  | some .null => some []
  | some (.object members) =>
    let d := members.foldl decodeMember ⟨[], false⟩
    if d.failed then none else some d.inputJSON
  | _ => none

/-! ## The members named `input_json` -/

def JsonValue.string? : JsonValue → Option Bytes
  | .string s => some s
  | _ => none

def JsonValue.stringOrNull : JsonValue → Bool
  | .string _ => true
  | .null => true
  | _ => false

/-- The values of the members named `input_json`. -/
def inputValues (members : List Member) : List JsonValue :=
  (members.filter fun m => isInputJSON m.1).map Prod.snd

theorem inputValues_cons (m : Member) (members : List Member) :
    inputValues (m :: members) =
      if isInputJSON m.1 then m.2 :: inputValues members else inputValues members := by
  unfold inputValues
  rw [List.filter_cons]
  split <;> rfl

/-- Decoding stores the last string and fails on any other value but `null`. -/
theorem foldl_decodeMember (members : List Member) (d : Decoded) :
    members.foldl decodeMember d =
      ⟨((inputValues members).filterMap JsonValue.string?).getLast?.getD d.inputJSON,
        d.failed || !(inputValues members).all JsonValue.stringOrNull⟩ := by
  induction members generalizing d with
  | nil =>
      obtain ⟨inputJSON, failed⟩ := d
      cases failed <;> rfl
  | cons m members ih =>
      obtain ⟨name, value⟩ := m
      rw [List.foldl_cons, ih, inputValues_cons]
      unfold decodeMember
      dsimp only
      split
      · cases value with
        | string s =>
            rw [List.filterMap_cons_some (rfl : JsonValue.string? (.string s) = some s),
              List.getLast?_cons]
            rfl
        | null => rfl
        | bool _ | number _ | array _ | object _ =>
            rw [List.filterMap_cons_none rfl, List.all_cons]
            simp [JsonValue.stringOrNull]
      · rfl

/-- The string that an object holds as `input_json`, the last one if there are more. -/
def inputMember (members : List Member) : Option Bytes :=
  ((inputValues members).filterMap JsonValue.string?).getLast?

theorem unmarshalExecute_object {parse : Bytes → Option JsonValue} {bodyBytes : Bytes}
    {members : List Member} (h : parse bodyBytes = some (.object members)) :
    unmarshalExecute parse bodyBytes =
      if (inputValues members).all JsonValue.stringOrNull then
        some ((inputMember members).getD [])
      else none := by
  unfold unmarshalExecute inputMember
  rw [h]
  dsimp only
  rw [foldl_decodeMember]
  cases (inputValues members).all JsonValue.stringOrNull <;> rfl

theorem inputMember_eq_none_iff {members : List Member} :
    inputMember members = none ↔ ∀ s, .string s ∉ inputValues members := by
  unfold inputMember
  rw [List.getLast?_eq_none_iff, List.filterMap_eq_nil_iff]
  constructor
  · intro h s hs
    cases h _ hs
  · intro h v hv
    cases v with
    | string s => exact absurd hv (h s)
    | _ => rfl

theorem mem_of_inputMember {members : List Member} {s : Bytes} (h : inputMember members = some s) :
    .string s ∈ inputValues members := by
  obtain ⟨v, hv, hstring⟩ := List.mem_filterMap.mp (List.mem_of_getLast? h)
  cases v with
  | string s' =>
      cases hstring
      exact hv
  | _ => cases hstring

/-- No member named `input_json` holds anything but `null`. -/
def NoInput (members : List Member) : Prop := ∀ v ∈ inputValues members, v = .null

theorem noInput_iff {members : List Member} :
    NoInput members ↔
      (inputValues members).all JsonValue.stringOrNull = true ∧ inputMember members = none := by
  unfold NoInput
  rw [inputMember_eq_none_iff, List.all_eq_true]
  constructor
  · intro h
    exact ⟨fun v hv => by rw [h v hv]; rfl, fun s hs => nomatch h _ hs⟩
  · rintro ⟨hall, hnone⟩ v hv
    have hkind := hall v hv
    cases v with
    | null => rfl
    | string s => exact absurd hv (hnone s)
    | bool _ | number _ | array _ | object _ => cases hkind

/-! ## What a body asks for -/

/-- The input that a request body means; `none` when no guest is to run. -/
def intendedInput (parse : Bytes → Option JsonValue) (body : Body) : Option Bytes :=
  if body.readFails then none
  else if body.bytes = [] then some (utf8 "{}")
  else
    match parse body.bytes with
    | some (.object members) =>
      match inputMember members with
      | some inputJSON => some (if inputJSON = [] then utf8 "{}" else inputJSON)
      | none => some body.bytes
    | _ => some body.bytes

/-- What is relied on of the syntax: a text is not a string that it holds, which is shorter, or is
    UTF-8 where the text is not; and `{}` is the object without members. -/
structure JsonSyntax (parse : Bytes → Option JsonValue) : Prop where
  differs : ∀ {bytes members s}, parse bytes = some (.object members) →
    .string s ∈ inputValues members → bytes ≠ s
  braces : parse (utf8 "{}") = some (.object [])

/-- A value that decodes without a string for `input_json`. -/
def Blank : Option JsonValue → Prop
  | some .null => True
  | some (.object members) => NoInput members
  | _ => False

/-- An object that holds a string as `input_json`, and a value there that is none and not null. -/
def Mixed : Option JsonValue → Prop
  | some (.object members) =>
    (∃ s, .string s ∈ inputValues members) ∧ ∃ v ∈ inputValues members, v.stringOrNull = false
  | _ => False

/-- The bodies whose input is what they ask for. -/
def Honoured (parse : Bytes → Option JsonValue) (body : Body) : Prop :=
  body.readFails = false ∧
    (body.bytes = [] ∨ body.bytes = utf8 "{}" ∨
      ¬ Blank (parse body.bytes) ∧ ¬ Mixed (parse body.bytes))

theorem executeInput_nil (json : Json) {body : Body} (h : body.bytes = []) :
    executeInput json body = utf8 "{}" := by
  unfold executeInput
  rw [h]
  simp

theorem executeInput_read (json : Json) {body : Body} (hread : body.readFails = false)
    (hne : body.bytes ≠ []) :
    executeInput json body =
      match json.unmarshal body.bytes with
      | some inputJSON => if inputJSON = [] then utf8 "{}" else inputJSON
      | none => body.bytes := by
  have hcond : body.readFails = false ∧ body.bytes.length > 0 :=
    ⟨hread, List.length_pos_iff.mpr hne⟩
  unfold executeInput
  simp only [if_pos hcond]
  cases json.unmarshal body.bytes with
  | some inputJSON => rfl
  | none => exact if_neg hne

/-- An object loses its input where it decodes without one, and where it has one and does not
    decode. -/
theorem object_intended_iff {parse : Bytes → Option JsonValue} (hjson : JsonSyntax parse)
    {members : List Member} {bodyBytes : Bytes}
    (hparse : parse bodyBytes = some (.object members)) :
    some (match if (inputValues members).all JsonValue.stringOrNull then
        some ((inputMember members).getD [])
      else none with
      | some inputJSON => if inputJSON = [] then utf8 "{}" else inputJSON
      | none => bodyBytes) =
    (match inputMember members with
      | some inputJSON => some (if inputJSON = [] then utf8 "{}" else inputJSON)
      | none => some bodyBytes) ↔
    bodyBytes = utf8 "{}" ∨ ¬ NoInput members ∧ ¬ Mixed (some (.object members)) := by
  rw [noInput_iff]
  cases hall : (inputValues members).all JsonValue.stringOrNull with
  | false =>
      obtain ⟨v, hv, hkind⟩ := List.all_eq_false.mp hall
      cases hmember : inputMember members with
      | none =>
          refine iff_of_true rfl (.inr ⟨fun h => Bool.false_ne_true h.1, fun hmixed => ?_⟩)
          obtain ⟨s, hs⟩ := hmixed.1
          exact inputMember_eq_none_iff.mp hmember s hs
      | some inputJSON =>
          have hmem := mem_of_inputMember hmember
          have hbraces : bodyBytes ≠ utf8 "{}" := by
            rintro rfl
            rw [hjson.braces] at hparse
            cases hparse
            cases hmem
          have hmixed : Mixed (some (.object members)) :=
            ⟨⟨inputJSON, hmem⟩, v, hv, Bool.eq_false_of_not_eq_true hkind⟩
          refine iff_of_false (fun h => ?_) fun h => h.elim hbraces fun h => h.2 hmixed
          have heq : bodyBytes = if inputJSON = [] then utf8 "{}" else inputJSON :=
            Option.some.inj h
          split at heq
          · exact hbraces heq
          · exact hjson.differs hparse hmem heq
  | true =>
      have hmixed : ¬ Mixed (some (.object members)) := by
        rintro ⟨-, v, hv, hkind⟩
        rw [List.all_eq_true.mp hall v hv] at hkind
        cases hkind
      cases inputMember members with
      | some inputJSON => exact iff_of_true rfl (.inr ⟨fun h => (nomatch h.2), hmixed⟩)
      | none => simp [eq_comm (a := utf8 "{}")]

theorem executeInput_intended_iff (decode : Body → Option PluginRequest)
    {parse : Bytes → Option JsonValue} (hjson : JsonSyntax parse) (body : Body) :
    some (executeInput ⟨decode, unmarshalExecute parse⟩ body) = intendedInput parse body ↔
      Honoured parse body := by
  unfold intendedInput Honoured
  cases hread : body.readFails with
  | true => simp
  | false =>
      by_cases hnil : body.bytes = []
      · rw [executeInput_nil _ hnil]
        simp [hnil]
      · rw [executeInput_read _ hread hnil]
        simp only [Bool.false_eq_true, if_false, hnil, true_and, false_or]
        cases hp : parse body.bytes with
        | none =>
            have hun : unmarshalExecute parse body.bytes = none := by
              unfold unmarshalExecute
              rw [hp]
            rw [hun]
            exact iff_of_true rfl (.inr ⟨id, id⟩)
        | some value =>
            cases value with
            | null =>
                have hun : unmarshalExecute parse body.bytes = some [] := by
                  unfold unmarshalExecute
                  rw [hp]
                rw [hun]
                simp [Blank, eq_comm]
            | bool _ | number _ | string _ | array _ =>
                have hun : unmarshalExecute parse body.bytes = none := by
                  unfold unmarshalExecute
                  rw [hp]
                rw [hun]
                exact iff_of_true rfl (.inr ⟨id, id⟩)
            | object members =>
                rw [unmarshalExecute_object hp]
                exact object_intended_iff hjson hp

/-! ## The handler -/

/-- The input that a handler holds for the engine. -/
def Phase.input {M : Type} : Phase M → Option Bytes
  | .getModule _ input => some input
  | .compile _ input => some input
  | .getCompiled _ input => some input
  | .run _ input _ => some input
  | _ => none

section Run

variable {M σ : Type} {A : Platform M σ} {s t : State M} {e : Event}

/-- The input that the handler of a request is running a guest on, or about to. -/
def State.engineInput (s : State M) (rid : Nat) : Option Bytes :=
  (s.handlers rid).bind fun h => h.phase.input

theorem queueCompile_phase {job : String} {phase : Phase M} {next : Next M}
    (h : queueCompile s job phase = some next) : next.2 = phase := by
  unfold queueCompile at h
  split at h
  · cases h
    rfl
  · cases h

/-- A handler keeps the input until it has no more use for it. -/
theorem resume_input {env : Env} {id : String} {phase : Phase M} {next : Next M}
    (h : resume A s env id phase = some next) :
    next.2.input = none ∨ next.2.input = phase.input := by
  cases phase with
  | createQueueCompile plugin =>
      left
      rw [queueCompile_phase h]
      rfl
  | updatePluginCode name sourceCode =>
      cases h
      unfold updateWrite
      split <;> exact .inl rfl
  | updateQueueCompile =>
      left
      rw [queueCompile_phase h]
      rfl
  | updateGetPlugin =>
      cases h
      unfold updateReread
      split <;> exact .inl rfl
  | getModule plugin input =>
      cases h
      unfold getModuleRead
      split <;> exact .inr rfl
  | compile plugin input =>
      cases h
      unfold getModuleCompile
      split <;> exact .inr rfl
  | getCompiled plugin input =>
      cases h
      exact .inr rfl
  | run plugin input loaded =>
      cases h
      unfold executeRun
      split <;> exact .inl rfl
  | saveExecution plugin result =>
      have hsave : executeSave A s env plugin result = some next := h
      unfold executeSave at hsave
      split at hsave
      · cases hsave
      · dsimp only at hsave
        split at hsave <;> cases hsave <;> exact .inl rfl
  | encodeResult result =>
      cases h
      exact .inl rfl
  | deletePluginRow =>
      cases h
      unfold deleteRow
      split <;> exact .inl rfl
  | done response => cases h

/-- The handler is there and holds `input` or nothing. -/
def Holds (rid : Nat) (id : String) (input : Bytes) (s : State M) : Prop :=
  ∃ phase, s.handlers rid = some ⟨some id, phase⟩ ∧
    (phase.input = none ∨ phase.input = some input)

theorem holds_step {rid : Nat} {id : String} {input : Bytes} (hs : Holds rid id input s)
    (h : step A s e = some t) : Holds rid id input t := by
  obtain ⟨phase, hh, hinput⟩ := hs
  rcases handler_moves h hh with hkept | ⟨next, -, hresume, rfl⟩ | ⟨-, rfl⟩
  · exact ⟨phase, hkept, hinput⟩
  · refine ⟨next.2, handlers_put_self _ _ _, ?_⟩
    rcases resume_input hresume with hnone | hsame
    · exact .inl hnone
    · rw [hsame]
      exact hinput
  · have habort : (s.restart).handlers rid = some (Handler.abort ⟨some id, phase⟩) := by
      unfold State.restart
      dsimp only
      rw [hh]
      rfl
    cases phase with
    | done response => exact ⟨_, habort, .inl rfl⟩
    | _ => exact ⟨_, habort, .inl rfl⟩

theorem holds_run {rid : Nat} {id : String} {input : Bytes} {es : List Event}
    (hs : Holds rid id input s) (hrun : run (step A) s es = some t) : Holds rid id input t := by
  have hstep : ∀ (s : State M) (e : Event) (t : State M), Holds rid id input s → True →
      step A s e = some t → Holds rid id input t := fun _ _ _ hs _ h => holds_step hs h
  exact run_invariant hstep (fun _ _ => trivial) hs hrun

theorem engineInput_of_holds {rid : Nat} {id : String} {input x : Bytes}
    (hs : Holds rid id input s) (hx : s.engineInput rid = some x) : x = input := by
  obtain ⟨phase, hh, hinput⟩ := hs
  unfold State.engineInput at hx
  rw [hh] at hx
  rcases hinput with hnone | hsome
  · exact absurd (hnone.symm.trans hx) nofun
  · exact Option.some.inj (hx.symm.trans hsome)

/-- `A` with the decoding of execute requests written out. -/
def Platform.decoding (A : Platform M σ) (parse : Bytes → Option JsonValue) : Platform M σ :=
  { A with json := ⟨A.json.decode, unmarshalExecute parse⟩ }

/-- An execute request on a compiled plugin: in every run behind it the engine is given the
    input that the body asks for, and no input when there is to be none, exactly for the bodies
    that are `Honoured`. -/
theorem engineInput_intended_iff (A : Platform M σ) {parse : Bytes → Option JsonValue}
    (hjson : JsonSyntax parse) {s s₁ : State M} {e : Event} {rid : Nat} {id : String}
    {body : Body} {plugin : Plugin}
    (haction : e.action = .request rid (.executePlugin id body)) (hid : id ≠ "")
    (hfound : e.env.call (A.repo.getPlugin s.db id) = .ok plugin)
    (hcompiled : plugin.status = "compiled")
    (hstep : step (A.decoding parse) s e = some s₁) :
    (∀ es t x, run (step (A.decoding parse)) s₁ es = some t → t.engineInput rid = some x →
      intendedInput parse body = some x) ↔ Honoured parse body := by
  have htarget : e.target = some id := by
    unfold Event.target
    rw [haction]
    rfl
  obtain ⟨-, next, hserve, rfl⟩ := (step_request haction).mp hstep
  have hnext : handleExecutePlugin (A.decoding parse) s e.env id body = next :=
    Option.some.inj hserve
  have hget : e.env.call ((A.decoding parse).repo.getPlugin s.db id) = .ok plugin := hfound
  unfold handleExecutePlugin at hnext
  rw [if_neg hid, hget] at hnext
  dsimp only at hnext
  rw [if_neg (not_not.mpr hcompiled)] at hnext
  subst hnext
  rw [htarget, ← executeInput_intended_iff A.json.decode hjson body]
  have hholds : Holds rid id (executeInput (A.decoding parse).json body)
      (State.put rid (some id)
        (s, .getModule plugin (executeInput (A.decoding parse).json body))) :=
    ⟨_, handlers_put_self _ _ _, .inr rfl⟩
  constructor
  · intro h
    refine (h [] _ _ rfl ?_).symm
    unfold State.engineInput
    rw [handlers_put_self]
    rfl
  · intro h es t x hrun hx
    rw [engineInput_of_holds (holds_run hholds hrun) hx]
    exact h.symm

end Run

/-- The object with the one member `x`, a number. -/
def objectBody : Bytes := [123, 34, 120, 34, 58, 49, 125]

/-- A parser that knows this text and the empty object. -/
def parseObjectBody (bytes : Bytes) : Option JsonValue :=
  if bytes = objectBody then some (.object [("x", .number "1")])
  else if bytes = utf8 "{}" then some (.object [])
  else none

theorem jsonSyntax_parseObjectBody : JsonSyntax parseObjectBody where
  differs {bytes members s} hparse hmem := by
    unfold parseObjectBody at hparse
    split at hparse
    · cases hparse
      cases hmem
    · split at hparse
      · cases hparse
        cases hmem
      · cases hparse
  braces := rfl

/-- Posts a body to the compiled plugin `p`. -/
def executeP (body : Body) : Event := (Action.request 1 (.executePlugin "p" body)).quietly ""

/-- An object without `input_json` is replaced by `{}`. -/
theorem object_replaced :
    ∃ s s₁, run (step (Platform.small.decoding parseObjectBody)) (State.start Bytes)
        createAndBuild = some s ∧
      step (Platform.small.decoding parseObjectBody) s (executeP ⟨objectBody, false⟩) = some s₁ ∧
      s₁.engineInput 1 = some (utf8 "{}") ∧
      intendedInput parseObjectBody ⟨objectBody, false⟩ = some objectBody :=
  ⟨_, _, rfl, rfl, rfl, rfl⟩

/-- Text that is not JSON reaches the engine as it is. -/
theorem text_kept :
    ∃ s s₁, run (step (Platform.small.decoding parseObjectBody)) (State.start Bytes)
        createAndBuild = some s ∧
      step (Platform.small.decoding parseObjectBody) s (executeP ⟨[104, 105], false⟩) = some s₁ ∧
      ∀ es t x, run (step (Platform.small.decoding parseObjectBody)) s₁ es = some t →
        t.engineInput 1 = some x → x = [104, 105] := by
  obtain ⟨s, s₁, plugin, hs, hs₁, hfound, hcompiled⟩ :
      ∃ s s₁ plugin, run (step (Platform.small.decoding parseObjectBody)) (State.start Bytes)
          createAndBuild = some s ∧
        step (Platform.small.decoding parseObjectBody) s (executeP ⟨[104, 105], false⟩) = some s₁ ∧
        (executeP ⟨[104, 105], false⟩).env.call (Platform.small.repo.getPlugin s.db "p") =
          .ok plugin ∧
        plugin.status = "compiled" :=
    ⟨_, _, _, rfl, rfl, rfl, rfl⟩
  refine ⟨s, s₁, hs, hs₁, fun es t x ht hx => ?_⟩
  have hhonoured : Honoured parseObjectBody ⟨[104, 105], false⟩ := ⟨rfl, .inr (.inr ⟨id, id⟩)⟩
  have hkept := (engineInput_intended_iff .small jsonSyntax_parseObjectBody rfl (by decide) hfound
    hcompiled hs₁).mpr hhonoured es t x ht hx
  exact (Option.some.inj hkept).symm

end PluginSandbox.Server
