import Retry.Proofs.Json.Document
import Retry.Settings.Reader

/-!
# Settings as the values of their members

Settings are read from a text in one pass. What they are depends on the value of the text alone:
`Settings.ofMembers?` takes the members of an object one after the other, and a text is read as the
settings that its members make (`Settings.toOption_ofText?`). Each part of the reader has its
counterpart on values, so what is proved of members and their values holds of texts.
-/

namespace Retry

open Json Json.Reader

variable {α σ : Type} {tokens after : List Token} {rest left : List Char}

namespace Json

/-! ### What a value begins with -/

/-- The characters that a tree may begin with. -/
def Tree.First : Tree → Char → Prop
  | .null, c => c = 'n'
  | .boolean true, c => c = 't'
  | .boolean false, c => c = 'f'
  | .number _, c => c = '-' ∨ c.isDigit = true
  | .text _, c => c = '"'
  | .array _, c => c = '['
  | .object _, c => c = '\x7b'

theorem Tree.First.ne {tree : Tree} {c other : Char} (h : tree.First c)
    (hother : ¬ tree.First other) : c ≠ other := by
  rintro rfl
  exact hother h

theorem Spaced.peekTree {tree : Tree} (h : Spaced (tree.tokens ++ after) rest) :
    ∃ first next, tree.First first ∧ Reader.peekToken rest = .ok (some first, next)
      ∧ Spaced (tree.tokens ++ after) next := by
  obtain ⟨token, more, htokens, _⟩ := tree.exists_tokens
  rw [htokens] at h ⊢
  obtain ⟨left, hleft, hpeek⟩ := h.peekToken
  have hfirst : ∃ first, tree.First first ∧ token.chars.head? = some first := by
    cases tree with
    | number numeral =>
        obtain ⟨rfl, _⟩ := List.cons.inj htokens
        obtain ⟨first, rest, hchars, hfirst⟩ := numeral.exists_chars
        exact ⟨first, hfirst.imp And.right And.right, by rw [Token.chars, hchars]; rfl⟩
    | boolean value =>
        obtain ⟨rfl, _⟩ := List.cons.inj htokens
        cases value <;> exact ⟨_, rfl, rfl⟩
    | null | text | array | object =>
        obtain ⟨rfl, _⟩ := List.cons.inj htokens
        exact ⟨_, rfl, rfl⟩
  obtain ⟨first, hfirst, hhead⟩ := hfirst
  exact ⟨first, _, hfirst, hhead ▸ hpeek, hleft.cons token⟩

theorem exists_fault_mismatch (wanted : String) (first : Char) (rest : List Char) :
    ∃ fault, (mismatch wanted first : Reader α) rest = .error fault := by
  unfold mismatch
  split
  · exact ⟨_, rfl⟩
  · split
    · exact ⟨_, rfl⟩
    · rw [bind_apply]
      split <;> exact ⟨_, rfl⟩

theorem Reads.map_bind {β γ : Type} {reader : Reader α} {o : Option γ} {decode : γ → Option α}
    {f : α → β} (h : Reads reader tokens (o.bind decode)) :
    Reads (reader >>= fun value => pure (f value)) tokens
      (o.bind fun a => (decode a).map f) := by
  have hresult : (o.bind fun a => (decode a).map f) = (o.bind decode).map f := by
    cases o <;> rfl
  rw [hresult]
  exact h.map

/-- A tree that a reader does not want. -/
theorem reads_mismatch {reader : Reader α} {wanted : String} {tree : Tree}
    (h : ∀ first rest next, tree.First first → Reader.peekToken rest = .ok (some first, next) →
      reader rest = mismatch wanted first next) : Reads reader tree.tokens none := by
  intro after rest _ hrest
  obtain ⟨first, next, hfirst, hpeek, hnext⟩ := hrest.peekTree
  obtain ⟨left, hleft⟩ := hnext.exists_of_append
  refine ⟨left, hleft, ?_⟩
  rw [h first rest next hfirst hpeek]
  exact exists_fault_mismatch wanted first next

/-! ### Values of one type -/

def Value.number? : Value → Option Number
  | .number n => some n
  | _ => none

def Value.text? : Value → Option String
  | .text s => some s
  | _ => none

def Value.boolean? : Value → Option Bool
  | .boolean b => some b
  | _ => none

section Typed

variable (tree : Tree) (depth : Nat)

theorem Tree.bind_number? : (tree.value? depth).bind Value.number?
    = match tree with
      | .number numeral => numeral.value?
      | _ => none := by
  cases tree with
  | number | text => simp [value?, Value.number?, Option.bind_map, Function.comp_def]
  | array | object =>
      cases depth <;> simp [value?, Value.number?, Option.bind_map, Function.comp_def]
  | null | boolean => rfl

theorem Tree.bind_text? : (tree.value? depth).bind Value.text?
    = match tree with
      | .text spelling => spelling.text?
      | _ => none := by
  cases tree with
  | number | text => simp [value?, Value.text?, Option.bind_map, Function.comp_def]
  | array | object => cases depth <;> simp [value?, Value.text?, Option.bind_map, Function.comp_def]
  | null | boolean => rfl

theorem Tree.bind_boolean? : (tree.value? depth).bind Value.boolean?
    = match tree with
      | .boolean b => some b
      | _ => none := by
  cases tree with
  | number | text => simp [value?, Value.boolean?, Option.bind_map, Function.comp_def]
  | array | object =>
      cases depth <;> simp [value?, Value.boolean?, Option.bind_map, Function.comp_def]
  | null | boolean => rfl

theorem Tree.eq_null_of_value? {tree : Tree} {depth : Nat} (h : tree.value? depth = some .null) :
    tree = .null := by
  cases tree with
  | null => rfl
  | boolean | number | text => simp [value?] at h
  | array | object => cases depth <;> simp [value?] at h

theorem reads_checkedNumber (wanted : String) {check : Number → Except Cause α}
    {decode : Number → Option α} (hcheck : ∀ n, (check n).toOption = decode n) :
    Reads (checkedNumber wanted check) tree.tokens
      ((tree.value? depth).bind fun value => value.number?.bind decode) := by
  have hother {first : Char} {rest next : List Char}
      (hfirst : ¬ (first = '-' ∨ first.isDigit = true))
      (hpeek : Reader.peekToken rest = .ok (some first, next)) :
      checkedNumber wanted check rest = mismatch wanted first next := by
    rw [checkedNumber, bind_apply, hpeek]
    simp only [hfirst, if_false]
  rw [← Option.bind_assoc, tree.bind_number?, ← funext hcheck]
  cases tree with
  | number numeral =>
      intro after rest hafter hrest
      obtain ⟨left, hleft, hpeek⟩ := Spaced.peekToken hrest
      obtain ⟨first, more, hchars, hfirst⟩ := numeral.exists_chars
      have hfirst : first = '-' ∨ first.isDigit = true := hfirst.imp And.right And.right
      refine ⟨left, hleft, ?_⟩
      have hread : checkedNumber wanted check rest
          = (do
            let n ← number
            (ofExcept (check n)).placed : Reader α) (numeral.chars ++ left) := by
        rw [checkedNumber, bind_apply, hpeek, Token.chars, hchars]
        simp only [List.head?_cons, hfirst, if_true]
      rw [hread]
      exact (numeral.gives_number (hleft.ends hafter)).check
  | boolean value =>
      cases value <;> exact reads_mismatch fun _ _ _ hfirst =>
        hother (by rw [show _ = _ from hfirst]; decide)
  | null | text | array | object =>
      exact reads_mismatch fun _ _ _ hfirst => hother (by rw [show _ = _ from hfirst]; decide)

theorem reads_checkedString (wanted : String) {check : String → Except Cause α}
    {decode : String → Option α} (hcheck : ∀ s, (check s).toOption = decode s) :
    Reads (checkedString wanted check) tree.tokens
      ((tree.value? depth).bind fun value => value.text?.bind decode) := by
  have hother {first : Char} {rest next : List Char} (hfirst : first ≠ '"')
      (hpeek : Reader.peekToken rest = .ok (some first, next)) :
      checkedString wanted check rest = mismatch wanted first next := by
    rw [checkedString, bind_apply, hpeek]
    simp only [hfirst, if_false]
  rw [← Option.bind_assoc, tree.bind_text?, ← funext hcheck]
  cases tree with
  | text spelling =>
      intro after rest hafter hrest
      obtain ⟨left, hleft, hpeek⟩ := Spaced.peekToken hrest
      refine ⟨left, hleft, ?_⟩
      have hread : checkedString wanted check rest
          = (do
            let s ← string
            (ofExcept (check s)).placed : Reader α) (spelling.chars ++ left) := by
        rw [checkedString, bind_apply, hpeek]
        rfl
      rw [hread]
      exact (spelling.gives_string left).check
  | boolean value =>
      cases value <;> exact reads_mismatch fun _ _ _ hfirst =>
        hother (hfirst.ne (by simp [Tree.First]))
  | number | null | array | object =>
      exact reads_mismatch fun _ _ _ hfirst => hother (hfirst.ne (by simp [Tree.First]))

theorem reads_boolean (wanted : String) :
    Reads (boolean wanted) tree.tokens ((tree.value? depth).bind Value.boolean?) := by
  have hother {first : Char} {rest next : List Char} (htrue : first ≠ 't') (hfalse : first ≠ 'f')
      (hpeek : Reader.peekToken rest = .ok (some first, next)) :
      boolean wanted rest = mismatch wanted first next := by
    rw [boolean, bind_apply, hpeek]
    simp only [htrue, hfalse, if_false]
  rw [tree.bind_boolean?]
  cases tree with
  | boolean value =>
      intro after rest hafter hrest
      obtain ⟨left, hleft, hpeek⟩ := Spaced.peekToken hrest
      refine ⟨left, hleft, ?_⟩
      rw [boolean, bind_apply, hpeek]
      cases value <;> rfl
  | number | null | text | array | object =>
      exact reads_mismatch fun _ _ _ hfirst =>
        hother (hfirst.ne (by simp [Tree.First])) (hfirst.ne (by simp [Tree.First]))

end Typed

/-! ### Members of one object -/

/-- A state that takes the members of an object as names and values. -/
theorem foldMembers?_eq (step : σ → String × Value → Option σ) (depth : Nat) (state : σ)
    (entries : List (Spelling × Tree)) :
    foldMembers? (fun state name tree => (tree.value? depth).bind fun value =>
        step state (name, value)) state entries
      = (Tree.memberValues? depth entries).bind fun members => members.foldlM step state := by
  induction entries generalizing state with
  | nil => rfl
  | cons entry entries ih =>
      obtain ⟨key, tree⟩ := entry
      simp only [foldMembers?, Tree.memberValues?, ih]
      cases key.text? with
      | none => rfl
      | some name =>
          cases tree.value? depth with
          | none => rfl
          | some value =>
              cases hstep : step state (name, value) with
              | none => cases Tree.memberValues? depth entries <;> simp [hstep]
              | some next => cases Tree.memberValues? depth entries <;> simp [hstep]

theorem gives_object {read : σ → String → Reader σ} {step : σ → String × Value → Option σ}
    {entries : List (Spelling × Tree)} {depth : Nat}
    (hread : ∀ state name (tree : Tree), Reads (read state name) (.colon :: tree.tokens)
      ((tree.value? depth).bind fun value => step state (name, value)))
    (state : σ)
    (hrest : Spaced (row true (Tree.memberTokens entries) ++ .closeObject :: after) rest) :
    ∃ left, Spaced (.closeObject :: after) left
      ∧ Gives (foldMembers read state rest)
        ((Tree.memberValues? depth entries).bind fun members => members.foldlM step state)
        left := by
  rw [← foldMembers?_eq]
  exact gives_foldMembers (fun entry _ state name _ => hread state name entry.2) state hrest

end Json

/-! ### Values of the members -/

def Json.Number.int64? : Number → Option Int64
  | .integer n => if n ≤ Int64.maxValue.toInt then some (Int64.ofInt n) else none
  | .float _ => none

def Json.Value.int64? (value : Value) : Option Int64 := value.number?.bind Number.int64?

/-- Nothing where the value is `null`. -/
def Json.Value.optionalInt64? : Value → Option (Option Int64)
  | .null => some none
  | value => value.int64?.map some

def BackoffKind.ofValue? (value : Value) : Option BackoffKind :=
  value.text?.bind BackoffKind.ofName?

namespace Settings

def BackoffDraft.take? (draft : BackoffDraft) (member : String × Value) : Option BackoffDraft :=
  if member.1 = kindKey then
    if draft.kind.isSome then none
    else (BackoffKind.ofValue? member.2).map fun kind => { draft with kind := some kind }
  else some { draft with reversed := member :: draft.reversed }

def BackoffDraft.content? (draft : BackoffDraft) : Option (BackoffKind × BackoffContent) :=
  draft.kind.map fun kind => (kind, .object draft.reversed.reverse)

end Settings

namespace BackoffContent

/-- What an object says of a backoff, its kind apart. -/
def ofMembers? (members : List (String × Value)) : Option (BackoffKind × BackoffContent) :=
  (members.foldlM Settings.BackoffDraft.take? {}).bind Settings.BackoffDraft.content?

/-- What an array says of a backoff, its kind apart. -/
def ofElements? : List Value → Option (BackoffKind × BackoffContent)
  | [] => none
  | first :: rest => (BackoffKind.ofValue? first).map fun kind => (kind, .array rest)

def ofValue? : Value → Option (BackoffKind × BackoffContent)
  | .object members => ofMembers? members
  | .array elements => ofElements? elements
  | _ => none

end BackoffContent

def BackoffSettings.ofValue? (value : Value) : Option BackoffSettings :=
  (BackoffContent.ofValue? value).bind fun content => (content.2.decode content.1).toOption

theorem BackoffSettings.bind_ofValue? (value : Option Value) : value.bind BackoffSettings.ofValue?
    = (value.bind BackoffContent.ofValue?).bind
      fun content => (content.2.decode content.1).toOption :=
  (Option.bind_assoc ..).symm

namespace Settings

def Draft.set? (draft : Draft) (value : Value) : SettingsField → Option Draft
  | .maxAttempts => value.int64?.map fun n => { draft with maxAttempts := some n }
  | .maxDurationMs => value.optionalInt64?.map fun n => { draft with maxDurationMs := some n }
  | .backoff =>
    (BackoffSettings.ofValue? value).map fun backoff => { draft with backoff := some backoff }
  | .jitter => value.boolean?.map fun b => { draft with jitter := some b }

/-- Takes one member into the settings. It must be known and must not have been there before. -/
def Draft.take? (draft : Draft) (member : String × Value) : Option Draft := do
  let field ← SettingsField.ofName? member.1
  if draft.has field then none else draft.set? member.2 field

def ofMembers? (members : List (String × Value)) : Option Settings :=
  (members.foldlM Draft.take? {}).map Draft.settings

/-! ### Each part is read as its value -/

section Parts

variable (tree : Tree) (depth : Nat)

theorem reads_kind :
    Reads readKind tree.tokens ((tree.value? depth).bind BackoffKind.ofValue?) := by
  refine reads_checkedString tree depth "variant identifier" fun name => ?_
  cases BackoffKind.ofName? name <;> rfl

theorem reads_integer :
    Reads readInteger tree.tokens ((tree.value? depth).bind Value.int64?) := by
  refine reads_checkedNumber tree depth "i64" fun n => ?_
  cases n with
  | float value => rfl
  | integer value =>
      simp only [Number.int64?]
      split <;> rfl

theorem reads_nullable :
    Reads (nullable readInteger) tree.tokens ((tree.value? depth).bind Value.optionalInt64?) := by
  intro after rest hafter hrest
  by_cases hnull : tree = .null
  · subst hnull
    obtain ⟨left, hleft, hpeek⟩ := Spaced.peekToken hrest
    refine ⟨left, hleft, ?_⟩
    rw [nullable, bind_apply, hpeek]
    rfl
  · obtain ⟨first, next, hfirst, hpeek, hnext⟩ := hrest.peekTree
    obtain ⟨left, hleft, hgives⟩ := reads_integer tree depth after next hafter hnext
    refine ⟨left, hleft, ?_⟩
    have hn : first ≠ 'n' := by
      rintro rfl
      cases tree with
      | null => exact hnull rfl
      | boolean value => cases value <;> exact absurd hfirst (by simp [Tree.First])
      | _ => exact absurd hfirst (by simp [Tree.First])
    have hread : nullable readInteger rest = (do return some (← readInteger)) next := by
      rw [nullable, bind_apply, hpeek]
      simp [hn]
    have hresult : (tree.value? depth).bind Value.optionalInt64?
        = ((tree.value? depth).bind Value.int64?).map some := by
      cases hvalue : tree.value? depth with
      | none => rfl
      | some value =>
          cases value with
          | null => exact absurd (tree.eq_null_of_value? hvalue) hnull
          | _ => rfl
    rw [hread, hresult]
    exact hgives.map

theorem reads_backoffMember (draft : BackoffDraft) (name : String) :
    Reads (readBackoffMember depth draft name) (.colon :: tree.tokens)
      ((tree.value? depth).bind fun value => draft.take? (name, value)) := by
  unfold BackoffDraft.take?
  by_cases hname : name = kindKey
  · cases hkind : draft.kind.isSome with
    | true =>
        simp only [hname, if_true]
        intro after rest _ hrest
        obtain ⟨left, hleft⟩ := hrest.exists_of_append
        refine ⟨left, hleft, ?_⟩
        simp only [Option.bind_fun_none, readBackoffMember, hkind, if_true]
        exact ⟨_, rfl⟩
    | false =>
        simp only [hname, if_true, Bool.false_eq_true, if_false]
        have hread : readBackoffMember depth draft kindKey
            = (do
              Reader.colon
              return { draft with kind := some (← readKind) }) := by
          simp [readBackoffMember, hkind]
        rw [hread]
        exact (reads_kind tree depth).map_bind.colon
  · have hread : readBackoffMember depth draft name
        = (do
          Reader.colon
          return { draft with reversed := (name, ← Reader.value depth) :: draft.reversed }) := by
      simp [readBackoffMember, hname]
    rw [hread]
    simp only [hname, if_false]
    have hvalue : Reads (Reader.value depth) tree.tokens ((tree.value? depth).bind some) := by
      simpa using reads_value tree depth
    exact hvalue.map_bind.colon

theorem gives_backoffArray {trees : List Tree} {depth : Nat}
    (hrest : Spaced (row true (trees.map Tree.tokens) ++ .closeArray :: after) rest) :
    ∃ left, Spaced (.closeArray :: after) left
      ∧ Gives (readBackoffArray depth rest)
        ((Tree.elementValues? depth trees).bind BackoffContent.ofElements?) left := by
  cases trees with
  | nil =>
      obtain ⟨left, hleft, hnone⟩ := Spaced.hasElement_close hrest true
      refine ⟨left, hleft, ?_⟩
      rw [readBackoffArray, bind_apply, hnone]
      exact ⟨_, rfl⟩
  | cons tree trees =>
      obtain ⟨next, hnext, hsome⟩ := Spaced.hasElement_tree true hrest.row_cons
      obtain ⟨middle, hmiddle, hkind⟩ := reads_kind tree depth _ next
        (follows_row _ .closeArray trivial) hnext
      obtain ⟨left, hleft, helements⟩ := gives_elements
        (fun tree _ => reads_value tree depth) false hmiddle
      refine ⟨left, hleft, ?_⟩
      have hresult : (Tree.elementValues? depth (tree :: trees)).bind BackoffContent.ofElements?
          = ((tree.value? depth).bind BackoffKind.ofValue?).bind fun kind =>
            (trees.mapM (Tree.value? depth)).map fun others => (kind, .array others) := by
        rw [Tree.elementValues?_eq, Tree.elementValues?]
        cases tree.value? depth with
        | none => rfl
        | some value =>
            cases Tree.elementValues? depth trees <;> cases hkind : BackoffKind.ofValue? value <;>
              simp [BackoffContent.ofElements?, hkind]
      rw [hresult, readBackoffArray, bind_apply, hsome]
      exact hkind.bind fun kind _ => helements.map

theorem gives_backoffObject {entries : List (Spelling × Tree)} {depth : Nat}
    (hrest : Spaced (row true (Tree.memberTokens entries) ++ .closeObject :: after) rest) :
    ∃ left, Spaced (.closeObject :: after) left
      ∧ Gives (readBackoffObject depth rest)
        ((Tree.memberValues? depth entries).bind BackoffContent.ofMembers?) left := by
  obtain ⟨left, hleft, hgives⟩ :=
    gives_object (fun draft name tree => reads_backoffMember tree depth draft name) {} hrest
  refine ⟨left, hleft, ?_⟩
  unfold BackoffContent.ofMembers?
  rw [← Option.bind_assoc]
  refine hgives.bind fun draft _ => ?_
  unfold BackoffDraft.content?
  cases draft.kind with
  | none => exact ⟨_, rfl⟩
  | some kind => rfl

theorem gives_ofExcept (result : Except Cause α) (left : List Char) :
    Gives (ofExcept result left) result.toOption left := by
  cases result with
  | error cause => exact ⟨_, rfl⟩
  | ok value => rfl

theorem gives_content {body : Nat → Reader (BackoffKind × BackoffContent)} {close : Reader Unit}
    {content : Option (BackoffKind × BackoffContent)} {c : Char} {next last : List Char}
    (hbody : Gives (body depth next) content left) (hclose : close left = .ok ((), last)) :
    Gives ((do
        let (kind, content) ← nested (depth + 1) fun depth => enclosed (body depth) close
        ofExcept (content.decode kind) : Reader BackoffSettings) (c :: next))
      (content.bind fun content => (content.2.decode content.1).toOption) last := by
  have hnested : Gives (nested (depth + 1) (fun depth => enclosed (body depth) close) (c :: next))
      content last := hbody.enclosed hclose
  exact hnested.bind fun content _ => gives_ofExcept ..

theorem reads_backoff_array (elements : List Tree) :
    Reads (readBackoff depth) (Tree.array elements).tokens
      (((Tree.array elements).value? depth).bind BackoffSettings.ofValue?) := by
  intro after rest _ hrest
  rw [Tree.tokens, intercalate_eq_row, Tree.elementTokens_eq, List.cons_append,
    List.append_assoc] at hrest
  obtain ⟨next, hnext, hpeek⟩ := hrest.peekToken
  rw [readBackoff, bind_apply, hpeek]
  cases depth with
  | zero =>
      obtain ⟨middle, hmiddle⟩ := hnext.exists_of_append
      obtain ⟨left, hleft⟩ := hmiddle.exists_of_append
      exact ⟨left, hleft, _, rfl⟩
  | succ depth =>
      obtain ⟨middle, hmiddle, hgives⟩ := gives_backoffArray hnext
      obtain ⟨left, hleft, hclose⟩ := hmiddle.closeArray
      refine ⟨left, hleft, ?_⟩
      rw [BackoffSettings.bind_ofValue?, Tree.value?, Option.bind_map]
      exact gives_content depth hgives hclose

theorem reads_backoff_object (members : List (Spelling × Tree)) :
    Reads (readBackoff depth) (Tree.object members).tokens
      (((Tree.object members).value? depth).bind BackoffSettings.ofValue?) := by
  intro after rest _ hrest
  rw [Tree.tokens, intercalate_eq_row, List.cons_append, List.append_assoc] at hrest
  obtain ⟨next, hnext, hpeek⟩ := hrest.peekToken
  rw [readBackoff, bind_apply, hpeek]
  cases depth with
  | zero =>
      obtain ⟨middle, hmiddle⟩ := hnext.exists_of_append
      obtain ⟨left, hleft⟩ := hmiddle.exists_of_append
      exact ⟨left, hleft, _, rfl⟩
  | succ depth =>
      obtain ⟨middle, hmiddle, hgives⟩ := gives_backoffObject hnext
      obtain ⟨left, hleft, hclose⟩ := hmiddle.closeObject
      refine ⟨left, hleft, ?_⟩
      rw [BackoffSettings.bind_ofValue?, Tree.value?, Option.bind_map]
      exact gives_content depth hgives hclose

theorem reads_backoff_scalar (hbracket : ¬ tree.First '[') (hbrace : ¬ tree.First '\x7b') :
    Reads (readBackoff depth) tree.tokens none := by
  have hmismatch (first : Char) (rest next : List Char) (hfirst : tree.First first)
      (hpeek : Reader.peekToken rest = .ok (some first, next)) :
      readBackoff depth rest = mismatch "internally tagged enum BackoffConfig" first next := by
    rw [readBackoff, bind_apply, hpeek]
    simp only [hfirst.ne hbracket, hfirst.ne hbrace, if_false]
  exact reads_mismatch hmismatch

theorem reads_backoff :
    Reads (readBackoff depth) tree.tokens
      ((tree.value? depth).bind BackoffSettings.ofValue?) := by
  cases tree with
  | array elements => exact reads_backoff_array depth elements
  | object members => exact reads_backoff_object depth members
  | number numeral =>
      have hnone : ((Tree.number numeral).value? depth).bind BackoffSettings.ofValue? = none := by
        rw [Tree.value?]
        cases numeral.value? <;> rfl
      rw [hnone]
      exact reads_backoff_scalar _ depth (by simp [Tree.First]) (by simp [Tree.First])
  | text spelling =>
      have hnone : ((Tree.text spelling).value? depth).bind BackoffSettings.ofValue? = none := by
        rw [Tree.value?]
        cases spelling.text? <;> rfl
      rw [hnone]
      exact reads_backoff_scalar _ depth (by simp [Tree.First]) (by simp [Tree.First])
  | boolean value =>
      cases value <;>
        exact reads_backoff_scalar _ depth (by simp [Tree.First]) (by simp [Tree.First])
  | null => exact reads_backoff_scalar _ depth (by simp [Tree.First]) (by simp [Tree.First])

theorem reads_field (draft : Draft) (field : SettingsField) :
    Reads (readField depth draft field) tree.tokens
      ((tree.value? depth).bind fun value => draft.set? value field) := by
  cases field with
  | maxAttempts =>
      exact (reads_integer tree depth).map_bind
  | maxDurationMs =>
      exact (reads_nullable tree depth).map_bind
  | backoff =>
      exact (reads_backoff tree depth).map_bind
  | jitter =>
      exact (reads_boolean tree depth "a boolean").map_bind

theorem reads_member (draft : Draft) (name : String) :
    Reads (readMember depth draft name) (.colon :: tree.tokens)
      ((tree.value? depth).bind fun value => draft.take? (name, value)) := by
  have htake : ∀ value, draft.take? (name, value)
      = (SettingsField.ofName? name).bind fun field =>
        if draft.has field then none else draft.set? value field := fun _ => rfl
  simp only [htake, readMember]
  cases SettingsField.ofName? name with
  | none =>
      intro after rest _ hrest
      obtain ⟨left, hleft⟩ := hrest.exists_of_append
      refine ⟨left, hleft, ?_⟩
      simp only [Option.bind_none, Option.bind_fun_none]
      exact ⟨_, rfl⟩
  | some field =>
      cases hhas : draft.has field with
      | true =>
          intro after rest _ hrest
          obtain ⟨left, hleft⟩ := hrest.exists_of_append
          refine ⟨left, hleft, ?_⟩
          simp only [Option.bind_some, hhas, if_true, Option.bind_fun_none]
          exact ⟨_, rfl⟩
      | false =>
          simp only [Option.bind_some, hhas, Bool.false_eq_true, if_false]
          exact (reads_field tree depth draft field).colon

end Parts

/-! ### Whole settings -/

theorem reads_settings (entries : List (Spelling × Tree)) (depth : Nat) :
    Reads (read (depth + 1)) (Tree.object entries).tokens
      ((Tree.memberValues? depth entries).bind ofMembers?) := by
  intro after rest _ hrest
  rw [Tree.tokens, intercalate_eq_row, List.cons_append, List.append_assoc] at hrest
  obtain ⟨next, hnext, hpeek⟩ := hrest.peekToken
  obtain ⟨middle, hmiddle, hgives⟩ :=
    gives_object (fun draft name tree => reads_member tree depth draft name) {} hnext
  obtain ⟨left, hleft, hclose⟩ := hmiddle.closeObject
  refine ⟨left, hleft, ?_⟩
  have hread : read (depth + 1) rest
      = (do
        let draft ← enclosed (foldMembers (readMember depth) {}) Reader.closeObject
        return draft.settings : Reader Settings) next := by
    rw [read, bind_apply, hpeek]
    rfl
  have hresult : (Tree.memberValues? depth entries).bind ofMembers?
      = ((Tree.memberValues? depth entries).bind fun members =>
          members.foldlM Draft.take? {}).map Draft.settings := by
    cases Tree.memberValues? depth entries <;> rfl
  rw [hread, hresult]
  exact (hgives.enclosed hclose).map

/-- **Settings are read as what the members of the text make.** -/
theorem toOption_ofText? {entries : List (Spelling × Tree)} {text : String}
    (h : (Tree.object entries).Spells text) :
    (ofText? text).toOption
      = (Tree.memberValues? (depthLimit - 1) entries).bind ofMembers? :=
  toOption_readAll (reads_settings entries (depthLimit - 1)) h

end Settings

end Retry
