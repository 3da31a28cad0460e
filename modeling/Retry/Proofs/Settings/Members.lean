import Retry.Proofs.Settings.Decoding

/-!
# What members make

The reader goes through the members in their order and keeps a draft. What comes out has no order:
each field has the one value that its name has, or its default where the name is absent, and a name
that is there twice makes nothing (`Settings.ofMembers?_eq_some_iff`). The object of a backoff is
the same, once its kind is known (`BackoffSettings.ofValue?_object`).
-/

namespace Retry

open Json

variable {α : Type} {members : List (String × Value)}

/-! ### The values of one name -/

/-- The values that a name has among the members of an object. -/
def valuesOf (name : String) (members : List (String × Value)) : List Value :=
  (members.filter (·.1 = name)).map Prod.snd

@[simp]
theorem valuesOf_nil (name : String) : valuesOf name [] = [] := rfl

theorem valuesOf_cons (name : String) (member : String × Value) :
    valuesOf name (member :: members)
      = if member.1 = name then member.2 :: valuesOf name members else valuesOf name members := by
  by_cases h : member.1 = name <;> simp [valuesOf, h]

theorem valuesOf_filter {name : String} (keep : String → Bool) (h : keep name = true) :
    valuesOf name (members.filter fun member => keep member.1) = valuesOf name members := by
  rw [valuesOf, valuesOf, List.filter_filter]
  congr 2
  funext member
  by_cases hname : member.1 = name <;> simp [hname, h]

/-- What the one value of a name is, or the default if there is none. -/
def only? (decode : Value → Option α) (default : Option α) : List Value → Option α
  | [] => default
  | [value] => decode value
  | _ => none

/-- A field that takes the values of its name one after the other takes only one. -/
def take? (decode : Value → Option α) (slot : Option α) (value : Value) : Option (Option α) :=
  if slot.isSome then none else (decode value).map some

theorem foldlM_take?_some (decode : Value → Option α) (a : α) (values : List Value) :
    values.foldlM (take? decode) (some a) = if values = [] then some (some a) else none := by
  cases values <;> rfl

theorem foldlM_take?_none (decode : Value → Option α) (default : Option α) (values : List Value) :
    (values.foldlM (take? decode) none).bind (·.or default) = only? decode default values := by
  cases values with
  | nil => rfl
  | cons value values =>
      simp only [List.foldlM_cons, take?, Option.isSome_none, Bool.false_eq_true, if_false]
      cases hvalue : decode value with
      | none => cases values <;> simp [only?, hvalue]
      | some a =>
          simp only [Option.map_some, Option.bind_eq_bind, Option.bind_some, foldlM_take?_some]
          cases values <;> simp [only?, hvalue]

/-! ### The members of settings -/

theorem SettingsField.ofName?_eq_some_iff {name : String} {field : SettingsField} :
    ofName? name = some field ↔ field.name = name := by
  constructor
  · intro h
    simpa using List.find?_some h
  · rintro rfl
    cases field <;> decide

theorem SettingsField.name_injective {field other : SettingsField} (h : field.name = other.name) :
    field = other :=
  Option.some.inj ((ofName?_eq_some_iff.mpr h).symm.trans (ofName?_eq_some_iff.mpr rfl))

theorem BackoffKind.ofName?_eq_some_iff {name : String} {kind : BackoffKind} :
    ofName? name = some kind ↔ kind.name = name := by
  constructor
  · intro h
    simpa using List.find?_some h
  · rintro rfl
    cases kind <;> decide

/-- What is kept of a member of settings. -/
def SettingsField.Content : SettingsField → Type
  | .maxAttempts => Int64
  | .maxDurationMs => Option Int64
  | .backoff => BackoffSettings
  | .jitter => Bool

def SettingsField.decode? : (field : SettingsField) → Value → Option field.Content
  | .maxAttempts => Value.int64?
  | .maxDurationMs => Value.optionalInt64?
  | .backoff => BackoffSettings.ofValue?
  | .jitter => Value.boolean?

namespace Settings

def content (settings : Settings) : (field : SettingsField) → field.Content
  | .maxAttempts => settings.maxAttempts
  | .maxDurationMs => settings.maxDurationMs
  | .backoff => settings.backoff
  | .jitter => settings.jitter

theorem Draft.take?_name (draft : Draft) (field : SettingsField) (value : Value) :
    draft.take? (field.name, value) = match field with
      | .maxAttempts => (Retry.take? Value.int64? draft.maxAttempts value).map
          fun slot => { draft with maxAttempts := slot }
      | .maxDurationMs => (Retry.take? Value.optionalInt64? draft.maxDurationMs value).map
          fun slot => { draft with maxDurationMs := slot }
      | .backoff => (Retry.take? BackoffSettings.ofValue? draft.backoff value).map
          fun slot => { draft with backoff := slot }
      | .jitter => (Retry.take? Value.boolean? draft.jitter value).map
          fun slot => { draft with jitter := slot } := by
  have hname : SettingsField.ofName? field.name = some field :=
    SettingsField.ofName?_eq_some_iff.mpr rfl
  simp only [Draft.take?, hname, Option.bind_eq_bind, Option.bind_some]
  cases field <;> simp only [Draft.has, Draft.set?, Retry.take?] <;> split <;>
    simp_all [Function.comp_def]

theorem foldlM_take?_eq_some_iff {draft final : Draft} :
    members.foldlM Draft.take? draft = some final
      ↔ (∀ member ∈ members, ∃ field, SettingsField.name field = member.1)
        ∧ (valuesOf SettingsField.maxAttempts.name members).foldlM (Retry.take? Value.int64?)
            draft.maxAttempts = some final.maxAttempts
        ∧ (valuesOf SettingsField.maxDurationMs.name members).foldlM
            (Retry.take? Value.optionalInt64?) draft.maxDurationMs = some final.maxDurationMs
        ∧ (valuesOf SettingsField.backoff.name members).foldlM
            (Retry.take? BackoffSettings.ofValue?) draft.backoff = some final.backoff
        ∧ (valuesOf SettingsField.jitter.name members).foldlM
            (Retry.take? Value.boolean?) draft.jitter = some final.jitter := by
  induction members generalizing draft with
  | nil =>
      cases draft
      cases final
      simp
  | cons member members ih =>
      obtain ⟨name, value⟩ := member
      rw [List.foldlM_cons, Option.bind_eq_bind, Option.bind_eq_some_iff, List.forall_mem_cons]
      simp only [ih, valuesOf_cons]
      cases hname : SettingsField.ofName? name with
      | none =>
          have hunknown : ¬ ∃ field, SettingsField.name field = name := by
            rintro ⟨field, hfield⟩
            rw [SettingsField.ofName?_eq_some_iff.mpr hfield] at hname
            exact absurd hname (by simp)
          simp [Draft.take?, hname, hunknown]
      | some field =>
          obtain rfl := SettingsField.ofName?_eq_some_iff.mp hname
          have hknown : ∃ other : SettingsField, other.name = field.name := ⟨field, rfl⟩
          simp only [hknown, Draft.take?_name, true_and]
          cases field <;>
            simp only [SettingsField.name, String.reduceEq, if_true, if_false, List.foldlM_cons,
              Option.bind_eq_bind, Option.bind_eq_some_iff, Option.map_eq_some_iff] <;>
            grind

/-- The settings that members make, each field from the values of its own name. -/
structure MadeOf (members : List (String × Value)) (settings : Settings) : Prop where
  known : ∀ member ∈ members, ∃ field, SettingsField.name field = member.1
  content : ∀ field : SettingsField,
    only? field.decode? (some (({} : Settings).content field)) (valuesOf field.name members)
      = some (settings.content field)

/-- **The members make settings field by field.** -/
theorem ofMembers?_eq_some_iff {settings : Settings} :
    ofMembers? members = some settings ↔ MadeOf members settings := by
  have hslot {α : Type} (decode : Value → Option α) (default a : α) (values : List Value) :
      only? decode (some default) values = some a
        ↔ ∃ slot, values.foldlM (Retry.take? decode) none = some slot ∧ slot.getD default = a := by
    rw [← foldlM_take?_none, Option.bind_eq_some_iff]
    simp only [Option.or_some, Option.some.injEq]
  rw [ofMembers?, Option.map_eq_some_iff]
  simp only [foldlM_take?_eq_some_iff]
  constructor
  · rintro ⟨final, ⟨hknown, hattempts, hduration, hbackoff, hjitter⟩, rfl⟩
    refine ⟨hknown, fun field => (hslot ..).mpr ?_⟩
    cases field with
    | maxAttempts => exact ⟨_, hattempts, rfl⟩
    | maxDurationMs => exact ⟨_, hduration, rfl⟩
    | backoff => exact ⟨_, hbackoff, rfl⟩
    | jitter => exact ⟨_, hjitter, rfl⟩
  · rintro ⟨hknown, hcontent⟩
    obtain ⟨attempts, hattempts, eqattempts⟩ := (hslot ..).mp (hcontent .maxAttempts)
    obtain ⟨duration, hduration, eqduration⟩ := (hslot ..).mp (hcontent .maxDurationMs)
    obtain ⟨backoff, hbackoff, eqbackoff⟩ := (hslot ..).mp (hcontent .backoff)
    obtain ⟨jitter, hjitter, eqjitter⟩ := (hslot ..).mp (hcontent .jitter)
    refine ⟨⟨attempts, duration, backoff, jitter⟩,
      ⟨hknown, hattempts, hduration, hbackoff, hjitter⟩, ?_⟩
    calc Draft.settings ⟨attempts, duration, backoff, jitter⟩
        = ⟨settings.content .maxAttempts, settings.content .maxDurationMs,
            settings.content .backoff, settings.content .jitter⟩ := by
          rw [← eqattempts, ← eqduration, ← eqbackoff, ← eqjitter]
          rfl
      _ = settings := rfl

end Settings

/-! ### The members of a backoff -/

namespace BackoffContent

def natural? (value : Value) : Option UInt64 := (decodeNatural value).toOption

def double? (value : Value) : Option Binary64 := (decodeFloat value).toOption

/-- A backoff of a kind, from the members that its kind asks for. -/
def ofKind? (members : List (String × Value)) : BackoffKind → Option BackoffSettings
  | .none => some .none
  | .fixed =>
    (only? natural? none (valuesOf BackoffField.intervalMs.name members)).map .fixed
  | .exponential => do
    let initial ← only? natural? none (valuesOf BackoffField.initialMs.name members)
    let multiplier ← only? double? none (valuesOf BackoffField.multiplier.name members)
    let maximum ← only? natural? none (valuesOf BackoffField.maxMs.name members)
    return .exponential initial multiplier maximum

/-- The kind comes from its own values, and the other members keep their order. -/
theorem ofMembers?_eq : ofMembers? members
    = (only? BackoffKind.ofValue? none (valuesOf kindKey members)).map fun kind =>
      (kind, .object (members.filter (·.1 ≠ kindKey))) := by
  have hfold (draft : Settings.BackoffDraft) :
      members.foldlM Settings.BackoffDraft.take? draft
        = ((valuesOf kindKey members).foldlM (take? BackoffKind.ofValue?) draft.kind).map
          fun kind =>
            { kind, reversed := (members.filter (·.1 ≠ kindKey)).reverse ++ draft.reversed } := by
    induction members generalizing draft with
    | nil => simp
    | cons member members ih =>
        obtain ⟨name, value⟩ := member
        rw [List.foldlM_cons, valuesOf_cons]
        by_cases hname : name = kindKey
        · simp only [hname, if_true, List.foldlM_cons, Settings.BackoffDraft.take?, take?]
          cases draft.kind with
          | some kind => simp
          | none => cases BackoffKind.ofValue? value <;> simp [ih]
        · simp [Settings.BackoffDraft.take?, hname, ih]
  rw [ofMembers?, hfold, Option.bind_map, ← foldlM_take?_none]
  cases (valuesOf kindKey members).foldlM (take? BackoffKind.ofValue?) none with
  | none => simp
  | some kind => cases kind <;> simp [Settings.BackoffDraft.content?]

theorem toOption_bind {ε β : Type} (result : Except ε α) (f : α → Except ε β) :
    (result >>= f).toOption = result.toOption.bind fun a => (f a).toOption := by
  cases result <;> rfl

theorem toOption_setOnce (field : BackoffField) (slot : Option α)
    (decode : Value → Except Cause α) (value : Value) :
    (setOnce field slot decode value).toOption
      = take? (fun value => (decode value).toOption) slot value := by
  cases slot with
  | some a => rfl
  | none =>
      simp only [setOnce, take?]
      cases decode value <;> rfl

theorem toOption_demand (field : BackoffField) (slot : Option α) :
    (demand field slot).toOption = slot := by
  cases slot <;> rfl

theorem toOption_foldlM_fixedMember (slot : Option UInt64) :
    (members.foldlM fixedMember slot).toOption
      = (valuesOf BackoffField.intervalMs.name members).foldlM (take? natural?) slot := by
  induction members generalizing slot with
  | nil => rfl
  | cons member members ih =>
      rw [List.foldlM_cons, toOption_bind, valuesOf_cons, fixedMember]
      split
      · rw [toOption_setOnce, List.foldlM_cons, Option.bind_eq_bind]
        exact congrArg _ (funext ih)
      · exact ih slot

theorem toOption_exponentialMember (draft : ExponentialDraft) (name : String) (value : Value) :
    (exponentialMember draft (name, value)).toOption
      = if name = BackoffField.initialMs.name then
          (take? natural? draft.initialMs value).map fun slot => { draft with initialMs := slot }
        else if name = BackoffField.multiplier.name then
          (take? double? draft.multiplier value).map fun slot => { draft with multiplier := slot }
        else if name = BackoffField.maxMs.name then
          (take? natural? draft.maxMs value).map fun slot => { draft with maxMs := slot }
        else some draft := by
  unfold exponentialMember
  split
  · rw [toOption_bind, toOption_setOnce]
    exact Option.map_eq_bind.symm
  · split
    · rw [toOption_bind, toOption_setOnce]
      exact Option.map_eq_bind.symm
    · split
      · rw [toOption_bind, toOption_setOnce]
        exact Option.map_eq_bind.symm
      · rfl

theorem toOption_foldlM_exponentialMember {draft final : ExponentialDraft} :
    (members.foldlM exponentialMember draft).toOption = some final
      ↔ (valuesOf BackoffField.initialMs.name members).foldlM (take? natural?)
            draft.initialMs = some final.initialMs
        ∧ (valuesOf BackoffField.multiplier.name members).foldlM (take? double?)
            draft.multiplier = some final.multiplier
        ∧ (valuesOf BackoffField.maxMs.name members).foldlM (take? natural?)
            draft.maxMs = some final.maxMs := by
  induction members generalizing draft with
  | nil =>
      cases draft
      cases final
      simp [Except.toOption, pure, Except.pure]
  | cons member members ih =>
      obtain ⟨name, value⟩ := member
      rw [List.foldlM_cons, toOption_bind, toOption_exponentialMember, Option.bind_eq_some_iff]
      simp only [ih, valuesOf_cons]
      by_cases hinitial : name = BackoffField.initialMs.name
      · subst hinitial
        simp only [BackoffField.name, String.reduceEq, if_true, if_false, List.foldlM_cons,
          Option.bind_eq_bind, Option.bind_eq_some_iff, Option.map_eq_some_iff]
        grind
      by_cases hmultiplier : name = BackoffField.multiplier.name
      · subst hmultiplier
        simp only [BackoffField.name, String.reduceEq, if_true, if_false, List.foldlM_cons,
          Option.bind_eq_bind, Option.bind_eq_some_iff, Option.map_eq_some_iff]
        grind
      by_cases hmaximum : name = BackoffField.maxMs.name
      · subst hmaximum
        simp only [BackoffField.name, String.reduceEq, if_true, if_false, List.foldlM_cons,
          Option.bind_eq_bind, Option.bind_eq_some_iff, Option.map_eq_some_iff]
        grind
      · simp [hinitial, hmultiplier, hmaximum]

theorem toOption_decode (kind : BackoffKind) :
    ((object members).decode kind).toOption = ofKind? members kind := by
  cases kind with
  | none => rfl
  | fixed =>
      rw [decode, toOption_bind, toOption_foldlM_fixedMember, ofKind?, ← foldlM_take?_none]
      cases (valuesOf BackoffField.intervalMs.name members).foldlM (take? natural?) none with
      | none => rfl
      | some slot => cases slot <;> rfl
  | exponential =>
      have hdraft : (members.foldlM exponentialMember {}).toOption
          = ((valuesOf BackoffField.initialMs.name members).foldlM (take? natural?) none).bind
            fun initial =>
              ((valuesOf BackoffField.multiplier.name members).foldlM (take? double?) none).bind
                fun multiplier =>
                  ((valuesOf BackoffField.maxMs.name members).foldlM (take? natural?) none).map
                    fun maximum => ⟨initial, multiplier, maximum⟩ := by
        ext ⟨initial, multiplier, maximum⟩
        simp only [toOption_foldlM_exponentialMember, Option.bind_eq_some_iff,
          Option.map_eq_some_iff, ExponentialDraft.mk.injEq]
        constructor
        · rintro ⟨hinitial, hmultiplier, hmaximum⟩
          exact ⟨_, hinitial, _, hmultiplier, _, hmaximum, rfl, rfl, rfl⟩
        · rintro ⟨_, hinitial, _, hmultiplier, _, hmaximum, rfl, rfl, rfl⟩
          exact ⟨hinitial, hmultiplier, hmaximum⟩
      simp only [decode, toOption_bind, toOption_demand, hdraft, ofKind?, ← foldlM_take?_none]
      cases (valuesOf BackoffField.initialMs.name members).foldlM (take? natural?) none with
      | none => rfl
      | some initial =>
          cases (valuesOf BackoffField.multiplier.name members).foldlM (take? double?) none with
          | none => cases initial <;> rfl
          | some multiplier =>
              cases (valuesOf BackoffField.maxMs.name members).foldlM (take? natural?) none with
              | none => cases initial <;> cases multiplier <;> rfl
              | some maximum => cases initial <;> cases multiplier <;> cases maximum <;> rfl

/-- The kind is not among what a kind asks for, so it may be left out. -/
theorem ofKind?_filter (kind : BackoffKind) :
    ofKind? (members.filter (·.1 ≠ kindKey)) kind = ofKind? members kind := by
  have hvalues (field : BackoffField) :
      valuesOf field.name (members.filter (·.1 ≠ kindKey)) = valuesOf field.name members :=
    valuesOf_filter (fun name => name ≠ kindKey) (by cases field <;> decide)
  cases kind <;> simp only [ofKind?, hvalues]

end BackoffContent

/-- **The members make the settings of a backoff field by field**, once its kind is known. -/
theorem BackoffSettings.ofValue?_object : ofValue? (.object members)
    = (only? BackoffKind.ofValue? .none (valuesOf kindKey members)).bind
      (BackoffContent.ofKind? members) := by
  rw [ofValue?, BackoffContent.ofValue?, BackoffContent.ofMembers?_eq, Option.bind_map]
  congr 1
  funext kind
  exact (BackoffContent.toOption_decode kind).trans (BackoffContent.ofKind?_filter kind)

end Retry
