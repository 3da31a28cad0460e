import Retry.Proofs.Json.PrintedNumber
import Retry.Proofs.Settings.Arrangement
import Retry.Settings.Printer

/-!
# Settings that are saved and read again

What is saved of settings is read as the same settings, whether a template can be built from them or
not. There is one exception: the multiplier of a backoff may be read as another number than the one
that was printed, and one that is not finite is printed as what no backoff takes
(`Settings.ofText?_printed`).
-/

namespace Retry

open Json

variable {members : List (String × Value)} {depth : Nat}

namespace Json

/-- A member that was printed is read as another one, with the same name. -/
def MemberReadAs (depth : Nat) (member read : String × Value) : Prop :=
  member.1 = read.1 ∧ member.2.tree.value? depth = some read.2

theorem Value.means_treeMembers {printed : List (String × Value)}
    (h : List.Forall₂ (MemberReadAs depth) printed members) :
    List.Forall₂ (Means depth) (Value.treeMembers printed) members := by
  induction h with
  | nil => exact .nil
  | cons hmember _ ih =>
      obtain ⟨hname, hvalue⟩ := hmember
      exact .cons ⟨by rw [Spelling.text?_ofString, hname], hvalue⟩ ih

theorem Value.mem_treeMembers {name : String} {value : Value} (h : (name, value) ∈ members) :
    (.ofString name, value.tree) ∈ Value.treeMembers members := by
  induction members with
  | nil => cases h
  | cons member members ih =>
      rcases List.mem_cons.mp h with rfl | h
      · exact List.mem_cons_self
      · exact List.mem_cons_of_mem _ (ih h)

theorem Value.mem_of_means {printed : List (String × Value)} {name : String} {value read : Value}
    (hmeans : List.Forall₂ (Means depth) (Value.treeMembers printed) members)
    (hmem : (name, value) ∈ printed) (hread : value.tree.value? depth = some read) :
    (name, read) ∈ members := by
  obtain ⟨⟨name', read'⟩, hmember, hname, hvalue⟩ := Means.exists_mem hmeans (mem_treeMembers hmem)
  obtain rfl : name = name' := Option.some.inj ((Spelling.text?_ofString name).symm.trans hname)
  obtain rfl : read = read' := Option.some.inj (hread.symm.trans hvalue)
  exact hmember

@[simp]
theorem Value.value?_tree_text (text : String) :
    (Value.text text).tree.value? depth = some (.text text) := by
  simp [Value.tree, Tree.value?]

theorem Value.value?_tree_object {printed : List (String × Value)}
    (h : List.Forall₂ (MemberReadAs depth) printed members) :
    (Value.object printed).tree.value? (depth + 1) = some (.object members) := by
  rw [Value.tree, Tree.value?]
  exact Option.map_eq_some_iff.mpr
    ⟨members, Tree.memberValues?_eq_some_iff.mpr (means_treeMembers h), rfl⟩

end Json

namespace Binary64

/-- Whether a number is read as another one from its digits. -/
def ReadAs (m read : Binary64) : Prop :=
  Value.ofText? (Number.text (.float m)) = .ok (.number (.float read))

/-- Whether a number is read from its digits as it was. -/
def ReadsBack (m : Binary64) : Prop := m.ReadAs m

theorem readAs_iff_number? {m read : Binary64} : m.ReadAs read
    ↔ (Value.ofText? (Number.text (.float m))).toOption.bind Value.number?
      = some (.float read) := by
  rw [ReadAs]
  rcases Value.ofText? (Number.text (.float m)) with error | value
  · simp [Except.toOption]
  · cases value <;> simp [Except.toOption, Value.number?]

instance (m read : Binary64) : Decidable (m.ReadAs read) :=
  decidable_of_iff _ readAs_iff_number?.symm

instance (m : Binary64) : Decidable m.ReadsBack := inferInstanceAs (Decidable (m.ReadAs m))

/-- A number is read alike wherever it stands. -/
theorem readAs_iff {m read : Binary64} : m.ReadAs read
    ↔ ∀ depth, (Value.number (.float m)).tree.value? depth = some (.number (.float read)) := by
  have hspells : (Value.number (.float m)).tree.Spells (Number.text (.float m)) := Spaced.number _
  have hiff : m.ReadAs read ↔ (Value.number (.float m)).tree.value? depthLimit
      = some (.number (.float read)) := by
    rw [ReadAs, ← hspells.toOption_ofText?]
    cases Value.ofText? (Number.text (.float m)) <;> simp [Except.toOption]
  rw [hiff]
  refine ⟨fun h depth => ?_, fun h => h depthLimit⟩
  cases m with
  | finite => exact h
  | nan => cases h
  | infinity => cases h

end Binary64

/-! ### What is saved -/

theorem value?_tree_integer {value : Int} (hlower : Int64.minValue.toInt ≤ value)
    (hupper : value < UInt64.size) :
    (Value.number (.integer value)).tree.value? depth = some (.number (.integer value)) := by
  rw [Value.tree, Number.tree, Tree.value?, Numeral.value?_ofInt hlower hupper]
  rfl

theorem value?_tree_int64 (n : Int64) :
    (Value.number (.integer n.toInt)).tree.value? depth = some (.number (.integer n.toInt)) := by
  have hupper := n.toInt_lt
  exact value?_tree_integer n.minValue_le_toInt (by simp only [UInt64.size]; omega)

theorem value?_tree_uInt64 (n : UInt64) :
    (Value.number (.integer n.toNat)).tree.value? depth = some (.number (.integer n.toNat)) := by
  have hupper := n.toNat_lt
  refine value?_tree_integer ?_ (by simp only [UInt64.size]; omega)
  have hleast : Int64.minValue.toInt = -9223372036854775808 := rfl
  omega

theorem int64?_integer (n : Int64) : Value.int64? (.number (.integer n.toInt)) = some n := by
  have hupper : n.toInt ≤ Int64.maxValue.toInt := n.toInt_le
  simp [Value.int64?, Value.number?, Number.int64?, hupper]

theorem natural?_integer (n : UInt64) :
    BackoffContent.natural? (.number (.integer n.toNat)) = some n := by
  simp [BackoffContent.natural?, BackoffContent.decodeNatural, Except.toOption]

namespace BackoffSettings

def multiplier? : BackoffSettings → Option Binary64
  | .none | .fixed _ => .none
  | .exponential _ multiplier _ => multiplier

/-- Backoffs are read as others with the same kind and the same spans. -/
inductive ReadAs : BackoffSettings → BackoffSettings → Prop
  | none : ReadAs .none .none
  | fixed (intervalMs : UInt64) : ReadAs (.fixed intervalMs) (.fixed intervalMs)
  | exponential (initialMs maxMs : UInt64) {m read : Binary64} (h : m.ReadAs read) :
      ReadAs (.exponential initialMs m maxMs) (.exponential initialMs read maxMs)

theorem ReadAs.refl {backoff : BackoffSettings} (h : ∀ m ∈ backoff.multiplier?, m.ReadsBack) :
    backoff.ReadAs backoff := by
  cases backoff with
  | none => exact .none
  | fixed intervalMs => exact .fixed intervalMs
  | exponential initialMs m maxMs =>
      exact .exponential initialMs maxMs (h m rfl)

theorem ReadAs.value?_toJson {backoff read : BackoffSettings} (h : backoff.ReadAs read) :
    backoff.toJson.tree.value? (depth + 1) = some read.toJson := by
  cases h with
  | none => exact Value.value?_tree_object (by simp [MemberReadAs])
  | fixed intervalMs => exact Value.value?_tree_object (by simp [MemberReadAs, value?_tree_uInt64])
  | exponential initialMs maxMs h =>
      refine Value.value?_tree_object ?_
      simp [MemberReadAs, value?_tree_uInt64, Binary64.readAs_iff.mp h depth]

theorem ofValue?_toJson (backoff : BackoffSettings) : ofValue? backoff.toJson = some backoff := by
  have hkind (kind : BackoffKind) : BackoffKind.ofValue? (.text kind.name) = some kind :=
    BackoffKind.ofName?_eq_some_iff.mpr rfl
  cases backoff with
  | none => rfl
  | fixed interval =>
      simp [toJson, ofValue?_object, valuesOf_cons, kindKey, BackoffField.name, only?, hkind,
        BackoffContent.ofKind?, natural?_integer]
  | exponential initial multiplier maximum =>
      have hmultiplier : BackoffContent.double? (.number (.float multiplier)) = some multiplier :=
        rfl
      simp [toJson, ofValue?_object, valuesOf_cons, kindKey, BackoffField.name, only?, hkind,
        BackoffContent.ofKind?, natural?_integer, hmultiplier]

end BackoffSettings

namespace Settings

theorem spells_text {settings : Settings} (h : settings.toJson = .object members) :
    (Tree.object (Value.treeMembers members)).Spells settings.text
      ∧ (Tree.object (Value.treeMembers members)).Spells settings.indentedText := by
  have htree : settings.toJson.tree = .object (Value.treeMembers members) := by
    rw [h, Value.tree]
  exact ⟨htree ▸ settings.toJson.spells_compact, htree ▸ settings.toJson.spells_indented⟩

theorem madeOf_toJson {settings : Settings} (h : settings.toJson = .object members) :
    MadeOf members settings := by
  obtain ⟨attempts, duration, backoff, jitter⟩ := settings
  have hduration (n : Int64) :
      Value.optionalInt64? (.number (.integer n.toInt)) = some (some n) := by
    simp [Value.optionalInt64?, int64?_integer]
  cases duration <;> obtain rfl := Value.object.inj h <;> refine ⟨by simp, fun field => ?_⟩ <;>
    cases field <;> simp [valuesOf_cons, SettingsField.name, only?, SettingsField.decode?, content,
      int64?_integer, hduration, BackoffSettings.ofValue?_toJson, Value.boolean?] <;> rfl

theorem means_toJson {settings : Settings} {backoff : BackoffSettings}
    {printed : List (String × Value)} (hbackoff : settings.backoff.ReadAs backoff)
    (hprinted : settings.toJson = .object printed)
    (hmembers : { settings with backoff }.toJson = .object members) :
    List.Forall₂ (Means (depth + 1)) (Value.treeMembers printed) members := by
  obtain ⟨attempts, duration, other, jitter⟩ := settings
  have hvalue : other.toJson.tree.value? (depth + 1) = some backoff.toJson := hbackoff.value?_toJson
  have hjitter : (Value.boolean jitter).tree.value? (depth + 1) = some (.boolean jitter) := by
    simp [Value.tree, Tree.value?]
  refine Value.means_treeMembers ?_
  cases duration <;> obtain rfl := Value.object.inj hprinted <;>
    obtain rfl := Value.object.inj hmembers <;>
    simp [MemberReadAs, value?_tree_int64, hvalue, hjitter]

/-- **What the texts of settings are read as**: the settings with another backoff, if theirs is read
as that. -/
theorem ofText?_of_readAs (settings : Settings) {backoff : BackoffSettings}
    (h : settings.backoff.ReadAs backoff) :
    ofText? settings.text = .ok { settings with backoff }
      ∧ ofText? settings.indentedText = .ok { settings with backoff } := by
  obtain ⟨printed, hprinted⟩ : ∃ members, settings.toJson = .object members := ⟨_, rfl⟩
  obtain ⟨members, hmembers⟩ : ∃ members, { settings with backoff }.toJson = .object members :=
    ⟨_, rfl⟩
  have hmeans : List.Forall₂ (Means (depthLimit - 1)) (Value.treeMembers printed) members :=
    means_toJson h hprinted hmembers
  have hmade := madeOf_toJson hmembers
  obtain ⟨hspells, hspells'⟩ := spells_text hprinted
  exact ⟨(ofText?_eq_ok_iff hspells).mpr ⟨members, hmeans, hmade⟩,
    (ofText?_eq_ok_iff hspells').mpr ⟨members, hmeans, hmade⟩⟩

theorem ofValue?_null_multiplier
    (hkind : (kindKey, .text BackoffKind.exponential.name) ∈ members)
    (hnull : (BackoffField.multiplier.name, .null) ∈ members) :
    BackoffSettings.ofValue? (.object members) = none := by
  rw [BackoffSettings.ofValue?_object, Option.bind_eq_none_iff]
  intro read hread
  obtain rfl := BackoffKind.eq_of_mem hkind hread
  have hmultiplier : only? BackoffContent.double? none
      (valuesOf BackoffField.multiplier.name members) = none := by
    refine Option.eq_none_iff_forall_not_mem.mpr fun m hm => ?_
    have hdouble := (only?_of_mem (mem_valuesOf.mpr hnull) hm).2
    cases hdouble
  simp [BackoffContent.ofKind?, hmultiplier]

theorem ofText?_ne_ok_of_not_finite {settings other : Settings} {text : String} {m : Binary64}
    (hmembers : settings.toJson = .object members)
    (hspells : (Tree.object (Value.treeMembers members)).Spells text)
    (hm : m ∈ settings.backoff.multiplier?) (hfinite : m.isFinite = false) :
    ofText? text ≠ .ok other := by
  have hmem : (SettingsField.backoff.name, settings.backoff.toJson) ∈ members := by
    obtain rfl := Value.object.inj hmembers
    simp
  have hnull (depth : Nat) : (Value.number (.float m)).tree.value? depth = some .null := by
    cases m with
    | finite => cases hfinite
    | nan => rfl
    | infinity => rfl
  generalize settings.backoff = backoff at hm hmem
  cases backoff with
  | none => cases hm
  | fixed => cases hm
  | exponential initial multiplier maximum =>
      obtain rfl := Option.some.inj hm
      refine ofText?_ne_ok_of_backoff hspells (Value.mem_treeMembers hmem)
        (Spelling.text?_ofString _) fun depth members hmeans => ofValue?_null_multiplier
          (Value.mem_of_means hmeans List.mem_cons_self (Value.value?_tree_text _))
          (Value.mem_of_means hmeans (.tail _ (.tail _ (.head _))) (hnull depth))

/-- **Settings are read as they were printed**, compactly or indented, if their multiplier is. One
that is not finite is refused. -/
theorem ofText?_printed (settings : Settings) :
    ((∀ m ∈ settings.backoff.multiplier?, m.ReadsBack) →
        ofText? settings.text = .ok settings ∧ ofText? settings.indentedText = .ok settings)
      ∧ ((∃ m ∈ settings.backoff.multiplier?, m.isFinite = false) →
        (∃ error, ofText? settings.text = .error error)
          ∧ ∃ error, ofText? settings.indentedText = .error error) := by
  obtain ⟨members, hmembers⟩ : ∃ members, settings.toJson = .object members := ⟨_, rfl⟩
  obtain ⟨hspells, hspells'⟩ := spells_text hmembers
  refine ⟨fun hmultiplier => ofText?_of_readAs settings (.refl hmultiplier), ?_⟩
  rintro ⟨m, hm, hfinite⟩
  exact ⟨exists_error_of_forall fun _ =>
      ofText?_ne_ok_of_not_finite hmembers hspells hm hfinite,
    exists_error_of_forall fun _ =>
      ofText?_ne_ok_of_not_finite hmembers hspells' hm hfinite⟩

theorem ofText?_printed_two_nan :
    ofText? (text { backoff := .exponential 100 2 1000 })
        = .ok { backoff := .exponential 100 2 1000 }
      ∧ ∃ error, ofText? (text { backoff := .exponential 100 .nan 1000 }) = .error error := by
  refine ⟨((ofText?_printed { backoff := .exponential 100 2 1000 }).1 ?_).1,
    ((ofText?_printed { backoff := .exponential 100 .nan 1000 }).2 ⟨.nan, rfl, rfl⟩).1⟩
  intro m hm
  obtain rfl : 2 = m := Option.some.inj hm
  decide +kernel

end Settings

end Retry
