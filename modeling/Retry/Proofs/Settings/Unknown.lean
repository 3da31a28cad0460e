import Retry.Proofs.Settings.Arrangement

/-!
# Unknown members

Settings have no unknown members. A backoff may have some: what its kind does not ask for is read as
a value and then forgotten, so it may be there, be something else or be left out
(`Settings.ofText?_unknown`).
-/

namespace Retry

open Json

variable {members members' : List (String × Value)} {entries : List (Spelling × Tree)}
  {depth : Nat}

/-! ### What a kind asks for -/

/-- Whether a backoff of a kind looks at the members of a name. -/
def BackoffKind.knows (kind : BackoffKind) (name : String) : Bool :=
  name = kindKey || kind.fields.any (·.name = name)

def BackoffSettings.kind : BackoffSettings → BackoffKind
  | .none => .none
  | .fixed _ => .fixed
  | .exponential .. => .exponential

theorem BackoffContent.kind_of_ofKind? {kind : BackoffKind} {backoff : BackoffSettings}
    (h : ofKind? members kind = some backoff) : backoff.kind = kind := by
  cases kind with
  | none =>
      obtain rfl := Option.some.inj h
      rfl
  | fixed =>
      obtain ⟨_, -, rfl⟩ := Option.map_eq_some_iff.mp h
      rfl
  | exponential =>
      simp only [ofKind?, Option.bind_eq_bind, Option.bind_eq_some_iff, Option.pure_def,
        Option.some.injEq] at h
      obtain ⟨_, _, _, _, _, _, rfl⟩ := h
      rfl

theorem BackoffContent.ofKind?_knows (kind : BackoffKind) :
    ofKind? (members.filter fun member => kind.knows member.1) kind = ofKind? members kind := by
  have hvalues (field : BackoffField) (hfield : kind.knows field.name = true) :
      valuesOf field.name (members.filter fun member => kind.knows member.1)
        = valuesOf field.name members := valuesOf_filter kind.knows hfield
  cases kind with
  | none => rfl
  | fixed => simp only [ofKind?, hvalues .intervalMs (by decide)]
  | exponential =>
      simp only [ofKind?, hvalues .initialMs (by decide),
        hvalues .multiplier (by decide), hvalues .maxMs (by decide)]

theorem BackoffSettings.ofValue?_knows {backoff : BackoffSettings} :
    ofValue? (.object (members.filter fun member => backoff.kind.knows member.1)) = some backoff
      ↔ ofValue? (.object members) = some backoff := by
  have hkind : valuesOf kindKey (members.filter fun member => backoff.kind.knows member.1)
      = valuesOf kindKey members :=
    valuesOf_filter backoff.kind.knows (by simp [BackoffKind.knows])
  rw [ofValue?_object, ofValue?_object, hkind, Option.bind_eq_some_iff, Option.bind_eq_some_iff]
  constructor
  · rintro ⟨kind, hread, hmake⟩
    obtain rfl := BackoffContent.kind_of_ofKind? hmake
    exact ⟨_, hread, BackoffContent.ofKind?_knows _ ▸ hmake⟩
  · rintro ⟨kind, hread, hmake⟩
    obtain rfl := BackoffContent.kind_of_ofKind? hmake
    exact ⟨_, hread, (BackoffContent.ofKind?_knows _).trans hmake⟩

def BackoffKind.knowsEntry (kind : BackoffKind) (entry : Spelling × Tree) : Bool :=
  entry.1.text?.all kind.knows

theorem Json.Means.filter_knows (kind : BackoffKind)
    (hmeans : List.Forall₂ (Means depth) entries members) :
    List.Forall₂ (Means depth) (entries.filter kind.knowsEntry)
      (members.filter fun member => kind.knows member.1) := by
  induction hmeans with
  | nil => exact .nil
  | @cons entry member _ _ hmember _ ih =>
      have hknows : kind.knowsEntry entry = kind.knows member.1 := by
        simp [BackoffKind.knowsEntry, hmember.1]
      rw [List.filter_cons, List.filter_cons, hknows]
      split
      · exact .cons hmember ih
      · exact ih

theorem Json.Means.exists_members (h : ∀ entry ∈ entries, ∃ member, Means depth entry member) :
    ∃ members, List.Forall₂ (Means depth) entries members := by
  induction entries with
  | nil => exact ⟨[], .nil⟩
  | cons entry entries ih =>
      obtain ⟨⟨member, hmember⟩, hrest⟩ := List.forall_mem_cons.mp h
      obtain ⟨members, hmeans⟩ := ih hrest
      exact ⟨member :: members, .cons hmember hmeans⟩

namespace Settings

variable {settings : Settings} {text text' : String}

theorem TreeStandsFor.of_knows {backoff : BackoffSettings} {inner inner' : List (Spelling × Tree)}
    (hknown : inner'.filter backoff.kind.knowsEntry = inner.filter backoff.kind.knowsEntry)
    (hunknown : ∀ entry ∈ inner', backoff.kind.knowsEntry entry = false →
      (entry.2.value? (depth - 1)).isSome) :
    TreeStandsFor backoff depth (.object inner) (.object inner') := by
  refine .object fun values hvalues => ?_
  have hmeaning : ∀ entry ∈ inner', ∃ member, Means (depth - 1) entry member := by
    intro entry hmem
    cases hknows : backoff.kind.knowsEntry entry with
    | true =>
        have hmem : entry ∈ inner.filter backoff.kind.knowsEntry :=
          hknown ▸ List.mem_filter.mpr ⟨hmem, hknows⟩
        obtain ⟨member, -, hmeans⟩ := Means.exists_mem hvalues (List.mem_filter.mp hmem).1
        exact ⟨member, hmeans⟩
    | false =>
        obtain ⟨value, hvalue⟩ := Option.isSome_iff_exists.mp (hunknown entry hmem hknows)
        cases hname : entry.1.text? with
        | none => simp [BackoffKind.knowsEntry, hname] at hknows
        | some name => exact ⟨(name, value), hname, hvalue⟩
  obtain ⟨values', hvalues'⟩ := Means.exists_members hmeaning
  have hsame : values'.filter (fun member => backoff.kind.knows member.1)
      = values.filter fun member => backoff.kind.knows member.1 := by
    have h := Tree.memberValues?_eq_some_iff.mpr (Means.filter_knows backoff.kind hvalues)
    have h' := Tree.memberValues?_eq_some_iff.mpr (Means.filter_knows backoff.kind hvalues')
    rw [hknown, h] at h'
    exact (Option.some.inj h').symm
  refine ⟨values', hvalues', fun hmake => ?_⟩
  rw [← BackoffSettings.ofValue?_knows, hsame, BackoffSettings.ofValue?_knows]
  exact hmake

/-- **Unknown members are refused in settings and forgotten in a backoff.** -/
theorem ofText?_unknown (h : (Tree.object entries).Spells text)
    (hread : ofText? text = .ok settings) :
    (∀ entry ∈ entries, ∃ field, entry.1.text? = some (SettingsField.name field))
      ∧ ∀ before key inner after, entries = before ++ (key, .object inner) :: after →
        ∀ inner' text', (Tree.object (before ++ (key, .object inner') :: after)).Spells text' →
          inner'.filter settings.backoff.kind.knowsEntry
            = inner.filter settings.backoff.kind.knowsEntry →
          (∀ entry ∈ inner', settings.backoff.kind.knowsEntry entry = false →
            (entry.2.value? (depthLimit - 2)).isSome) →
          ofText? text' = .ok settings := by
  obtain ⟨members, hmeans, hmade⟩ := (ofText?_eq_ok_iff h).mp hread
  constructor
  · intro entry hmem
    obtain ⟨member, hmem, hname, -⟩ := Means.exists_mem hmeans hmem
    obtain ⟨field, hfield⟩ := hmade.known member hmem
    exact ⟨field, hfield ▸ hname⟩
  · rintro before key inner after rfl inner' text' h' hknown hunknown
    have hsame (entries : List (Spelling × Tree)) :
        List.Forall₂ (fun entry entry' => entry.1 = entry'.1
          ∧ TreeStandsFor settings.backoff (depthLimit - 1) entry.2 entry'.2) entries entries :=
      List.forall₂_same.mpr fun entry _ => ⟨rfl, .refl _ _ _⟩
    exact (ofText?_eq_ok_iff h').mpr (hmade.of_standsFor hmeans (List.rel_append (hsame before)
      (.cons ⟨rfl, .of_knows hknown hunknown⟩ (hsame after))))

def fixedMembers (others : List (String × Value)) : List (String × Value) :=
  ("kind", .text "fixed") :: ("interval_ms", .number (.integer 50)) :: others

theorem ofText?_unknown_added :
    ofText? "\x7b\"backoff\":\x7b\"kind\":\"fixed\",\"interval_ms\":50,\"max_ms\":9\x7d\x7d"
      = .ok { backoff := .fixed 50 } := by
  have hspells : (Tree.object (Value.treeMembers [("backoff", .object (fixedMembers []))])).Spells
      "\x7b\"backoff\":\x7b\"kind\":\"fixed\",\"interval_ms\":50\x7d\x7d" :=
    Value.spells_members (by decide +kernel)
  have hadded : (Tree.object (Value.treeMembers
      [("backoff", .object (fixedMembers [("max_ms", .number (.integer 9))]))])).Spells
        "\x7b\"backoff\":\x7b\"kind\":\"fixed\",\"interval_ms\":50,\"max_ms\":9\x7d\x7d" :=
    Value.spells_members (by decide +kernel)
  have hread : ∀ entry ∈ Value.treeMembers (fixedMembers [("max_ms", .number (.integer 9))]),
      (entry.2.value? (depthLimit - 2)).isSome := by
    decide +kernel
  have haccepted : ofText? "\x7b\"backoff\":\x7b\"kind\":\"fixed\",\"interval_ms\":50\x7d\x7d"
      = .ok { backoff := .fixed 50 } := rfl
  exact (ofText?_unknown hspells haccepted).2 [] _ _ [] rfl _ _ hadded rfl fun entry hmem _ =>
    hread entry hmem

theorem exists_ofText?_unknown : ∃ text entries settings key inner entry,
    (Tree.object entries).Spells text ∧ ofText? text = .ok settings
      ∧ (key, .object inner) ∈ entries ∧ key.text? = some SettingsField.backoff.name
      ∧ entry ∈ inner ∧ settings.backoff.kind.knowsEntry entry = false :=
  ⟨"\x7b\"backoff\":\x7b\"kind\":\"fixed\",\"interval_ms\":50,\"x\":1\x7d\x7d",
    Value.treeMembers [("backoff", .object (fixedMembers [("x", .number (.integer 1))]))],
    { backoff := .fixed 50 }, .ofString "backoff", _, _, Value.spells_members (by decide +kernel),
    rfl, .head _, rfl, .tail _ (.tail _ (.head _)), rfl⟩

end Settings

end Retry
