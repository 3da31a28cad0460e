import Mathlib.Data.List.Perm.Basic
import Retry.Proofs.Json.Printed
import Retry.Proofs.Settings.Members

/-!
# Members in any arrangement

Since members make settings field by field, nothing depends on how they are arranged: not on their
order, neither in the settings nor in the backoff, and not on the blanks between them. A member may
be left out if it has its default, and none may be there twice (`Settings.ofText?_arrangement`).
-/

namespace Retry

open Json

variable {α : Type} {members members' : List (String × Value)}
  {entries entries' : List (Spelling × Tree)} {depth : Nat}

/-! ### Values of one name -/

theorem mem_valuesOf {name : String} {value : Value} :
    value ∈ valuesOf name members ↔ (name, value) ∈ members := by
  simp only [valuesOf, List.mem_map, List.mem_filter, decide_eq_true_eq]
  constructor
  · rintro ⟨⟨name', value'⟩, ⟨hmem, rfl⟩, rfl⟩
    exact hmem
  · exact fun hmem => ⟨_, ⟨hmem, rfl⟩, rfl⟩

theorem length_valuesOf (name : String) (members : List (String × Value)) :
    (valuesOf name members).length = members.countP (·.1 = name) := by
  rw [valuesOf, List.length_map, List.countP_eq_length_filter]

theorem valuesOf_perm (name : String) (h : members.Perm members') :
    (valuesOf name members).Perm (valuesOf name members') :=
  (h.filter _).map _

theorem valuesOf_forall₂ {r : Value → Value → Prop} (name : String)
    (h : List.Forall₂ (fun member member' => member.1 = member'.1 ∧ r member.2 member'.2)
      members members') : List.Forall₂ r (valuesOf name members) (valuesOf name members') := by
  induction h with
  | nil => exact .nil
  | cons hmember _ ih =>
      rw [valuesOf_cons, valuesOf_cons, hmember.1]
      split
      · exact .cons hmember.2 ih
      · exact ih

theorem only?_perm (decode : Value → Option α) (default : Option α) {values values' : List Value}
    (h : values.Perm values') : only? decode default values = only? decode default values' := by
  match values, values', h.length_eq with
  | [], [], _ => rfl
  | [_], [_], _ => rw [List.singleton_perm_singleton.mp h]
  | _ :: _ :: _, _ :: _ :: _, _ => rfl

theorem only?_eq_none {decode : Value → Option α} {default : Option α} {values : List Value}
    (h : 2 ≤ values.length) : only? decode default values = none := by
  match values, h with
  | _ :: _ :: _, _ => rfl

theorem only?_valuesOf_perm (decode : Value → Option α) (default : Option α) (name : String)
    (h : members.Perm members') :
    only? decode default (valuesOf name members)
      = only? decode default (valuesOf name members') :=
  only?_perm decode default (valuesOf_perm name h)

/-- A value that is there is the one that counts. -/
theorem only?_of_mem {decode : Value → Option α} {default : Option α} {values : List Value}
    {value : Value} {a : α} (hmem : value ∈ values) (h : only? decode default values = some a) :
    values = [value] ∧ decode value = some a := by
  match values, hmem with
  | [only], hmem =>
      obtain rfl := List.mem_singleton.mp hmem
      exact ⟨rfl, h⟩
  | _ :: _ :: _, _ => cases h

/-- Values that are decoded alike may replace each other. -/
theorem only?_congr {decode : Value → Option α} {default : Option α} {a : α}
    {values values' : List Value}
    (h : List.Forall₂ (fun value value' => decode value = some a → decode value' = some a)
      values values') (ha : only? decode default values = some a) :
    only? decode default values' = some a := by
  match values, values', h with
  | [], [], _ => exact ha
  | [_], [_], .cons h _ => exact h ha
  | _ :: _ :: _, _, _ => cases ha

/-! ### Backoffs -/

theorem BackoffContent.ofKind?_perm (kind : BackoffKind) (h : members.Perm members') :
    ofKind? members kind = ofKind? members' kind := by
  cases kind <;> simp only [ofKind?, only?_valuesOf_perm _ _ _ h]

theorem BackoffSettings.ofValue?_perm (h : members.Perm members') :
    ofValue? (.object members) = ofValue? (.object members') := by
  rw [ofValue?_object, ofValue?_object, only?_valuesOf_perm _ _ _ h]
  exact congrArg _ (funext fun kind => BackoffContent.ofKind?_perm kind h)

/-- The members that a kind asks for. -/
def BackoffKind.fields : BackoffKind → List BackoffField
  | .none => []
  | .fixed => [.intervalMs]
  | .exponential => [.initialMs, .multiplier, .maxMs]

theorem BackoffSettings.ofValue?_repeated_kind (h : 2 ≤ members.countP (·.1 = kindKey)) :
    ofValue? (.object members) = Option.none := by
  rw [ofValue?_object, only?_eq_none (by rwa [length_valuesOf]), Option.bind_none]

theorem BackoffKind.eq_of_mem {kind read : BackoffKind}
    (hkind : (kindKey, .text kind.name) ∈ members)
    (hread : only? ofValue? Option.none (valuesOf kindKey members) = some read) : read = kind :=
  Option.some.inj ((only?_of_mem (mem_valuesOf.mpr hkind) hread).2.symm.trans
    (ofName?_eq_some_iff.mpr rfl))

theorem BackoffSettings.ofValue?_repeated_field {kind : BackoffKind} {field : BackoffField}
    (hkind : (kindKey, .text kind.name) ∈ members) (hfield : field ∈ kind.fields)
    (hrepeated : 2 ≤ members.countP (·.1 = field.name)) :
    ofValue? (.object members) = Option.none := by
  rw [ofValue?_object, Option.bind_eq_none_iff]
  intro read hread
  obtain rfl := BackoffKind.eq_of_mem hkind hread
  have hnone {α : Type} (decode : Value → Option α) :
      only? decode Option.none (valuesOf field.name members) = Option.none :=
    only?_eq_none (by rwa [length_valuesOf])
  cases read with
  | none => cases hfield
  | fixed =>
      obtain rfl := List.mem_singleton.mp hfield
      simp [BackoffContent.ofKind?, hnone]
  | exponential =>
      simp only [BackoffKind.fields, List.mem_cons, List.not_mem_nil, or_false] at hfield
      rcases hfield with rfl | rfl | rfl <;> simp [BackoffContent.ofKind?, hnone]

/-! ### Settings -/

namespace Settings

variable {settings : Settings}

theorem MadeOf.perm (hmade : MadeOf members settings) (h : members.Perm members') :
    MadeOf members' settings where
  known := fun member hmem => hmade.known member (h.mem_iff.mpr hmem)
  content := fun field => only?_valuesOf_perm _ _ _ h ▸ hmade.content field

/-- A value that may stand for another one where a backoff is read: the same value, or an object
that makes the same backoff. -/
def StandsFor (backoff : BackoffSettings) (value value' : Value) : Prop :=
  value = value' ∨ ∃ inner inner', value = .object inner ∧ value' = .object inner'
    ∧ (BackoffSettings.ofValue? (.object inner) = some backoff →
      BackoffSettings.ofValue? (.object inner') = some backoff)

/-- Only the backoff of settings is an object, so only there another object may stand. -/
theorem MadeOf.replace (hmade : MadeOf members settings)
    (h : List.Forall₂ (fun member member' => member.1 = member'.1
      ∧ StandsFor settings.backoff member.2 member'.2) members members') :
    MadeOf members' settings := by
  have hnames : members.map Prod.fst = members'.map Prod.fst := by
    rw [← List.forall₂_eq_eq_eq, List.forall₂_map_left_iff, List.forall₂_map_right_iff]
    exact h.imp fun _ _ hmember => hmember.1
  constructor
  · have hknown : ∀ name ∈ members.map Prod.fst, ∃ field, SettingsField.name field = name :=
      List.forall_mem_map.mpr hmade.known
    rw [hnames] at hknown
    exact fun member hmem => hknown _ (List.mem_map_of_mem hmem)
  · intro field
    refine only?_congr ((valuesOf_forall₂ _ h).imp fun value value' hvalue hdecode => ?_)
      (hmade.content field)
    rcases hvalue with rfl | ⟨inner, inner', rfl, rfl, hinner⟩
    · exact hdecode
    · cases field with
      | backoff => exact hinner hdecode
      | _ => cases hdecode

/-- The value of a member that says what its absence says. -/
def defaultValue : SettingsField → Value
  | .maxAttempts => .number (.integer 3)
  | .maxDurationMs => .null
  | .backoff => .object [(kindKey, .text BackoffKind.none.name)]
  | .jitter => .boolean false

theorem madeOf_default {field : SettingsField}
    (habsent : ∀ member ∈ members, member.1 ≠ field.name) :
    MadeOf ((field.name, defaultValue field) :: members) settings ↔ MadeOf members settings := by
  have hnil : valuesOf field.name members = [] := by
    rw [valuesOf, List.filter_eq_nil_iff.mpr (by simpa using habsent), List.map_nil]
  have hcontent (other : SettingsField) :
      only? other.decode? (some (({} : Settings).content other))
          (valuesOf other.name ((field.name, defaultValue field) :: members))
        = only? other.decode? (some (({} : Settings).content other))
          (valuesOf other.name members) := by
    rw [valuesOf_cons]
    by_cases hother : field = other
    · subst hother
      rw [if_pos rfl, hnil]
      cases field <;> rfl
    · rw [if_neg fun hname => hother (SettingsField.name_injective hname)]
  constructor
  · intro h
    exact ⟨fun member hmem => h.known member (List.mem_cons_of_mem _ hmem),
      fun other => (hcontent other).symm.trans (h.content other)⟩
  · intro h
    exact ⟨List.forall_mem_cons.mpr ⟨⟨field, rfl⟩, h.known⟩,
      fun other => (hcontent other).trans (h.content other)⟩

theorem MadeOf.countP_lt (h : MadeOf members settings) (field : SettingsField) :
    members.countP (·.1 = field.name) < 2 := by
  by_contra hrepeated
  rw [Nat.not_lt, ← length_valuesOf] at hrepeated
  exact absurd ((only?_eq_none hrepeated).symm.trans (h.content field)) (by simp)

end Settings

/-! ### From texts to members -/

namespace Json

/-- Members among which a name is there twice. -/
def Repeats (entries : List (Spelling × Tree)) (name : String) : Prop :=
  2 ≤ entries.countP (·.1.text? = some name)

/-- What a member of a tree means to a reader that opens at most `depth` containers. -/
def Means (depth : Nat) (entry : Spelling × Tree) (member : String × Value) : Prop :=
  entry.1.text? = some member.1 ∧ entry.2.value? depth = some member.2

theorem Tree.memberValues?_eq_some_iff :
    memberValues? depth entries = some members ↔ List.Forall₂ (Means depth) entries members := by
  induction entries generalizing members with
  | nil => simp [memberValues?, eq_comm]
  | cons entry entries ih =>
      obtain ⟨key, tree⟩ := entry
      simp only [memberValues?, Option.bind_eq_bind, Option.bind_eq_some_iff, Option.pure_def,
        Option.some.injEq, List.forall₂_cons_left_iff, ih]
      constructor
      · rintro ⟨name, hname, value, hvalue, rest, hrest, rfl⟩
        exact ⟨(name, value), rest, ⟨hname, hvalue⟩, hrest, rfl⟩
      · rintro ⟨⟨name, value⟩, rest, ⟨hname, hvalue⟩, hrest, rfl⟩
        exact ⟨name, hname, value, hvalue, rest, hrest, rfl⟩

/-- A tree that is another one, or the same object with its members in another order. -/
inductive Tree.Reordered : Tree → Tree → Prop where
  | refl (tree : Tree) : Reordered tree tree
  | members {entries entries' : List (Spelling × Tree)} (h : entries.Perm entries') :
    Reordered (.object entries) (.object entries')

/-- Members in another order, each of them with its own members in any order. -/
def Rearranged (entries entries' : List (Spelling × Tree)) : Prop :=
  ∃ middle, entries.Perm middle
    ∧ List.Forall₂ (fun entry entry' => entry.1 = entry'.1 ∧ entry.2.Reordered entry'.2)
      middle entries'

theorem Tree.Reordered.symm {tree tree' : Tree} (h : tree.Reordered tree') :
    tree'.Reordered tree := by
  cases h with
  | refl => exact .refl tree
  | members h => exact .members h.symm

theorem Rearranged.symm (h : Rearranged entries entries') : Rearranged entries' entries := by
  obtain ⟨middle, hperm, hreordered⟩ := h
  obtain ⟨middle', hreordered, hperm⟩ := List.perm_comp_forall₂ hperm hreordered
  refine ⟨middle', hperm.symm, .flip (hreordered.imp ?_)⟩
  exact fun _ _ hentry => ⟨hentry.1.symm, hentry.2.symm⟩

theorem Means.perm (hmeans : List.Forall₂ (Means depth) entries members)
    (h : entries.Perm entries') :
    ∃ members', List.Forall₂ (Means depth) entries' members' ∧ members.Perm members' :=
  let ⟨members', hmeans', hperm⟩ := List.perm_comp_forall₂ h.symm hmeans
  ⟨members', hmeans', hperm.symm⟩

theorem Means.exists_mem {entry : Spelling × Tree}
    (hmeans : List.Forall₂ (Means depth) entries members) (hmem : entry ∈ entries) :
    ∃ member ∈ members, Means depth entry member := by
  induction hmeans with
  | nil => cases hmem
  | cons hmember _ ih =>
      rcases List.mem_cons.mp hmem with rfl | hmem
      · exact ⟨_, List.mem_cons_self, hmember⟩
      · obtain ⟨member, hmem, hmeans⟩ := ih hmem
        exact ⟨member, List.mem_cons_of_mem _ hmem, hmeans⟩

theorem Means.countP_eq (hmeans : List.Forall₂ (Means depth) entries members) (name : String) :
    members.countP (·.1 = name) = entries.countP (·.1.text? = some name) := by
  induction hmeans with
  | nil => rfl
  | cons hmember _ ih => simp [List.countP_cons, ih, hmember.1]

end Json

namespace Settings

variable {settings : Settings} {text text' : String}

/-- **A text is read as the settings that its members make.** -/
theorem ofText?_eq_ok_iff (h : (Tree.object entries).Spells text) :
    ofText? text = .ok settings
      ↔ ∃ members, List.Forall₂ (Means (depthLimit - 1)) entries members
        ∧ MadeOf members settings := by
  have hok : ofText? text = .ok settings ↔ (ofText? text).toOption = some settings := by
    cases ofText? text <;> simp [Except.toOption]
  rw [hok, toOption_ofText? h, Option.bind_eq_some_iff]
  simp only [Tree.memberValues?_eq_some_iff, ofMembers?_eq_some_iff]

theorem exists_error_of_forall (h : ∀ settings, ofText? text ≠ .ok settings) :
    ∃ error, ofText? text = .error error := by
  cases hread : ofText? text with
  | error error => exact ⟨error, rfl⟩
  | ok settings => exact absurd hread (h settings)

/-- A tree that may stand for another one, as its value may. -/
def TreeStandsFor (backoff : BackoffSettings) (depth : Nat) (tree tree' : Tree) : Prop :=
  ∀ value, tree.value? depth = some value →
    ∃ value', tree'.value? depth = some value' ∧ StandsFor backoff value value'

theorem TreeStandsFor.refl (backoff : BackoffSettings) (depth : Nat) (tree : Tree) :
    TreeStandsFor backoff depth tree tree :=
  fun value hvalue => ⟨value, hvalue, .inl rfl⟩

theorem TreeStandsFor.object {backoff : BackoffSettings} {inner inner' : List (Spelling × Tree)}
    (h : ∀ values, List.Forall₂ (Means (depth - 1)) inner values →
      ∃ values', List.Forall₂ (Means (depth - 1)) inner' values'
        ∧ (BackoffSettings.ofValue? (.object values) = some backoff →
          BackoffSettings.ofValue? (.object values') = some backoff)) :
    TreeStandsFor backoff depth (.object inner) (.object inner') := by
  intro value hvalue
  cases depth with
  | zero => cases hvalue
  | succ depth =>
      obtain ⟨values, hvalues, rfl⟩ := Option.map_eq_some_iff.mp hvalue
      obtain ⟨values', hvalues', hmake⟩ := h values (Tree.memberValues?_eq_some_iff.mp hvalues)
      refine ⟨.object values', ?_, .inr ⟨values, values', rfl, rfl, hmake⟩⟩
      exact Option.map_eq_some_iff.mpr ⟨values', Tree.memberValues?_eq_some_iff.mpr hvalues', rfl⟩

theorem TreeStandsFor.of_reordered {backoff : BackoffSettings} {tree tree' : Tree}
    (h : tree.Reordered tree') : TreeStandsFor backoff depth tree tree' := by
  cases h with
  | refl => exact .refl backoff depth tree
  | members hperm =>
      refine .object fun values hvalues => ?_
      obtain ⟨values', hvalues', hperm⟩ := Means.perm hvalues hperm
      exact ⟨values', hvalues', fun h => (BackoffSettings.ofValue?_perm hperm).symm.trans h⟩

theorem MadeOf.of_standsFor (hmade : MadeOf members settings)
    (hmeans : List.Forall₂ (Means depth) entries members)
    (h : List.Forall₂ (fun entry entry' => entry.1 = entry'.1
      ∧ TreeStandsFor settings.backoff depth entry.2 entry'.2) entries entries') :
    ∃ members', List.Forall₂ (Means depth) entries' members' ∧ MadeOf members' settings := by
  have hstands : ∃ members', List.Forall₂ (Means depth) entries' members'
      ∧ List.Forall₂ (fun member member' => member.1 = member'.1
        ∧ StandsFor settings.backoff member.2 member'.2) members members' := by
    clear hmade
    induction h generalizing members with
    | nil =>
        cases hmeans
        exact ⟨[], .nil, .nil⟩
    | cons hentry _ ih =>
        obtain ⟨member, members, hmember, hrest, rfl⟩ := List.forall₂_cons_left_iff.mp hmeans
        obtain ⟨members', hmeans', hstands⟩ := ih hrest
        obtain ⟨value', hvalue', hvalue⟩ := hentry.2 _ hmember.2
        exact ⟨(member.1, value') :: members', .cons ⟨hentry.1 ▸ hmember.1, hvalue'⟩ hmeans',
          .cons ⟨rfl, hvalue⟩ hstands⟩
  obtain ⟨members', hmeans', hstands⟩ := hstands
  exact ⟨members', hmeans', hmade.replace hstands⟩

theorem ofText?_of_rearranged (h : (Tree.object entries).Spells text)
    (h' : (Tree.object entries').Spells text') (harranged : Rearranged entries entries')
    (hread : ofText? text = .ok settings) : ofText? text' = .ok settings := by
  obtain ⟨members, hmeans, hmade⟩ := (ofText?_eq_ok_iff h).mp hread
  obtain ⟨middle, hperm, hreordered⟩ := harranged
  obtain ⟨ordered, hmeans, hordered⟩ := Means.perm hmeans hperm
  exact (ofText?_eq_ok_iff h').mpr ((hmade.perm hordered).of_standsFor hmeans
    (hreordered.imp fun _ _ hentry => ⟨hentry.1, .of_reordered hentry.2⟩))

theorem ofText?_rearranged (h : (Tree.object entries).Spells text)
    (h' : (Tree.object entries').Spells text') (harranged : Rearranged entries entries') :
    ofText? text = .ok settings ↔ ofText? text' = .ok settings :=
  ⟨ofText?_of_rearranged h h' harranged, ofText?_of_rearranged h' h harranged.symm⟩

/-- A member that is absent may be added with its default. -/
theorem ofText?_default {key : Spelling} {tree : Tree} {field : SettingsField}
    (h : (Tree.object entries).Spells text) (h' : (Tree.object entries').Spells text')
    (hadded : entries'.Perm ((key, tree) :: entries)) (hkey : key.text? = some field.name)
    (habsent : ∀ entry ∈ entries, entry.1.text? ≠ some field.name)
    (htree : tree.value? (depthLimit - 1) = some (defaultValue field)) :
    ofText? text' = .ok settings ↔ ofText? text = .ok settings := by
  have habsent {members : List (String × Value)}
      (hmeans : List.Forall₂ (Means (depthLimit - 1)) entries members) :
      ∀ member ∈ members, member.1 ≠ field.name := by
    have hzero : members.countP (·.1 = field.name) = 0 := by
      rw [Means.countP_eq hmeans, List.countP_eq_zero]
      simpa using habsent
    simpa using List.countP_eq_zero.mp hzero
  rw [ofText?_eq_ok_iff h', ofText?_eq_ok_iff h]
  constructor
  · rintro ⟨members', hmeans', hmade⟩
    obtain ⟨members', hmeans', hperm⟩ := Means.perm hmeans' hadded
    obtain ⟨member, members, hmember, hmeans, rfl⟩ := List.forall₂_cons_left_iff.mp hmeans'
    obtain rfl : member = (field.name, defaultValue field) :=
      Prod.ext (Option.some.inj (hmember.1.symm.trans hkey))
        (Option.some.inj (hmember.2.symm.trans htree))
    exact ⟨members, hmeans, (madeOf_default (habsent hmeans)).mp (hmade.perm hperm)⟩
  · rintro ⟨members, hmeans, hmade⟩
    obtain ⟨members', hmeans', hperm⟩ :=
      Means.perm (.cons (And.intro hkey htree : Means _ _ (_, _)) hmeans) hadded.symm
    exact ⟨members', hmeans', ((madeOf_default (habsent hmeans)).mpr hmade).perm hperm⟩

theorem ofText?_ne_ok_of_repeats {field : SettingsField} (h : (Tree.object entries).Spells text)
    (hrepeats : Repeats entries field.name) : ofText? text ≠ .ok settings := by
  intro hread
  obtain ⟨members, hmeans, hmade⟩ := (ofText?_eq_ok_iff h).mp hread
  rw [Repeats, ← Means.countP_eq hmeans] at hrepeats
  have := hmade.countP_lt field
  omega

theorem ofText?_ne_ok_of_backoff {key : Spelling} {inner : List (Spelling × Tree)}
    (h : (Tree.object entries).Spells text) (hmem : (key, .object inner) ∈ entries)
    (hkey : key.text? = some SettingsField.backoff.name)
    (hnone : ∀ depth members, List.Forall₂ (Means depth) inner members →
      BackoffSettings.ofValue? (.object members) = none) : ofText? text ≠ .ok settings := by
  intro hread
  obtain ⟨members, hmeans, hmade⟩ := (ofText?_eq_ok_iff h).mp hread
  obtain ⟨⟨name, value⟩, hmem, hname, hvalue⟩ := Means.exists_mem hmeans hmem
  obtain ⟨values, hvalues, rfl⟩ := Option.map_eq_some_iff.mp hvalue
  obtain rfl := Option.some.inj (hkey.symm.trans hname)
  have hread := (only?_of_mem (mem_valuesOf.mpr hmem) (hmade.content .backoff)).2
  have hnone := hnone _ values (Tree.memberValues?_eq_some_iff.mp hvalues)
  exact absurd (hnone.symm.trans hread) (by simp)

end Settings

/-- A backoff whose kind is there twice, or a field that its kind asks for. -/
inductive BackoffRepeats (inner : List (Spelling × Tree)) : Prop where
  | kind (h : Repeats inner kindKey)
  | field {key name : Spelling} {kind : BackoffKind} {field : BackoffField}
    (hmem : (key, .text name) ∈ inner) (hkey : key.text? = some kindKey)
    (hname : name.text? = some kind.name) (hfield : field ∈ kind.fields)
    (h : Repeats inner field.name)

theorem BackoffRepeats.ofValue?_eq_none {inner : List (Spelling × Tree)} (h : BackoffRepeats inner)
    (hmeans : List.Forall₂ (Means depth) inner members) :
    BackoffSettings.ofValue? (.object members) = none := by
  cases h with
  | kind h => exact BackoffSettings.ofValue?_repeated_kind (by rwa [Means.countP_eq hmeans])
  | @field key name kind field hmem hkey hname hfield h =>
      obtain ⟨⟨read, value⟩, hmem, hread, hvalue⟩ := Means.exists_mem hmeans hmem
      obtain rfl := Option.some.inj (hkey.symm.trans hread)
      obtain rfl : .text kind.name = value :=
        Option.some.inj ((congrArg (Option.map Value.text) hname).symm.trans hvalue)
      exact BackoffSettings.ofValue?_repeated_field hmem hfield (by rwa [Means.countP_eq hmeans])

/-- **Settings depend on their members only**, however they are arranged: in any order and with any
blanks, and whether or not a member with its default is there. No member may be there twice. -/
theorem Settings.ofText?_arrangement (entries : List (Spelling × Tree)) (text : String)
    (h : (Tree.object entries).Spells text) :
    (∀ entries' text' settings, Rearranged entries entries' → (Tree.object entries').Spells text' →
        (ofText? text' = .ok settings ↔ ofText? text = .ok settings))
      ∧ (∀ (field : SettingsField) key tree entries' text' settings,
          key.text? = some field.name → tree.value? (depthLimit - 1) = some (defaultValue field) →
          (∀ entry ∈ entries, entry.1.text? ≠ some field.name) →
          entries'.Perm ((key, tree) :: entries) → (Tree.object entries').Spells text' →
          (ofText? text' = .ok settings ↔ ofText? text = .ok settings))
      ∧ (∀ field : SettingsField, Repeats entries field.name →
          ∃ error, ofText? text = .error error)
      ∧ ∀ key inner, (key, .object inner) ∈ entries →
          key.text? = some SettingsField.backoff.name → BackoffRepeats inner →
          ∃ error, ofText? text = .error error :=
  ⟨fun _ _ _ harranged h' => (ofText?_rearranged h h' harranged).symm,
    fun _ _ _ _ _ _ hkey htree habsent hadded h' =>
      ofText?_default h h' hadded hkey habsent htree,
    fun _ hrepeats => exists_error_of_forall fun _ => ofText?_ne_ok_of_repeats h hrepeats,
    fun _ _ hmem hkey hrepeats => exists_error_of_forall fun _ =>
      ofText?_ne_ok_of_backoff h hmem hkey fun _ _ => hrepeats.ofValue?_eq_none⟩

theorem Settings.ofText?_arrangement_swapped :
    ofText? "\x7b\"jitter\":true,\"backoff\":\x7b\"interval_ms\":50,\"kind\":\"fixed\"\x7d\x7d"
      = .ok { backoff := .fixed 50, jitter := true } := by
  have hspells : (Tree.object (Value.treeMembers [("backoff", .object [("kind", .text "fixed"),
      ("interval_ms", .number (.integer 50))]), ("jitter", .boolean true)])).Spells
        "\x7b\"backoff\":\x7b\"kind\":\"fixed\",\"interval_ms\":50\x7d,\"jitter\":true\x7d" :=
    Value.spells_members (by decide +kernel)
  have hswapped : (Tree.object (Value.treeMembers [("jitter", .boolean true),
      ("backoff", .object [("interval_ms", .number (.integer 50)),
        ("kind", .text "fixed")])])).Spells
        "\x7b\"jitter\":true,\"backoff\":\x7b\"interval_ms\":50,\"kind\":\"fixed\"\x7d\x7d" :=
    Value.spells_members (by decide +kernel)
  refine ((ofText?_arrangement _ _ hspells).1 _ _ _ ⟨_, .swap _ _ _, ?_⟩ hswapped).mpr rfl
  exact .cons ⟨rfl, .refl _⟩ (.cons ⟨rfl, .members (.swap _ _ _)⟩ .nil)

end Retry
