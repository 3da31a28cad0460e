import Retry.Proofs.Json.Literal
import Retry.Proofs.Json.Numeral

/-!
# Trees as they are read

Any value is read as the value of its tree (`reads_value`), and a whole text likewise
(`toOption_readAll`). Arrays and objects are read by loops that are shared, so the loops come first:
whatever reads one element or one member, the loop reads the row of them.
-/

namespace Retry.Json

open Reader

variable {α σ : Type} {tokens after : List Token} {rest left : List Char}

/-! ### Rows of elements and members -/

/-- Items with a comma before each of them, the first one apart if nothing comes before it. -/
def row : Bool → List (List Token) → List Token
  | _, [] => []
  | true, item :: items => item ++ row false items
  | false, item :: items => .comma :: (item ++ row false items)

theorem intercalate_eq_row (items : List (List Token)) :
    [Token.comma].intercalate items = row true items := by
  cases items with
  | nil => rfl
  | cons item items =>
      induction items generalizing item with
      | nil => simp [row]
      | cons next items ih =>
          rw [List.intercalate_cons_cons, ih]
          simp [row]

theorem length_le_row (first : Bool) (items : List (List Token)) (h : ∀ item ∈ items, item ≠ []) :
    items.length ≤ (row first items).length := by
  induction items generalizing first with
  | nil => exact Nat.zero_le _
  | cons item items ih =>
      have hitem := List.length_pos_iff.mpr (h item List.mem_cons_self)
      have hrest := ih false fun item hmem => h item (List.mem_cons_of_mem _ hmem)
      cases first <;> simp only [row, List.length_append, List.length_cons] <;> omega

/-- A token that a value begins with. -/
def Token.StartsValue : Token → Prop
  | .openArray | .openObject | .null | .boolean _ | .number _ | .text _ => True
  | _ => False

theorem Tree.exists_tokens (tree : Tree) :
    ∃ first more, tree.tokens = first :: more ∧ first.StartsValue := by
  cases tree <;> exact ⟨_, _, rfl, trivial⟩

theorem Tree.elementTokens_eq (elements : List Tree) :
    elementTokens elements = elements.map Tree.tokens := by
  induction elements with
  | nil => rfl
  | cons element rest ih => rw [elementTokens, ih, List.map_cons]

theorem Tree.memberTokens_eq (members : List (Spelling × Tree)) :
    memberTokens members
      = members.map fun member => .text member.1 :: .colon :: member.2.tokens := by
  induction members with
  | nil => rfl
  | cons member rest ih => rw [memberTokens, ih, List.map_cons]

theorem Token.StartsValue.exists_chars {token : Token} (h : token.StartsValue) :
    ∃ first more, token.chars = first :: more ∧ first ≠ ']' ∧ first ≠ '\x7d' := by
  cases token with
  | number numeral =>
      obtain ⟨first, more, hchars, hfirst⟩ := numeral.exists_chars
      refine ⟨first, more, hchars, ?_⟩
      rcases hfirst with ⟨_, rfl⟩ | ⟨_, hdigit⟩
      · decide
      · constructor <;> rintro rfl <;> exact absurd hdigit (by decide)
  | text spelling => exact ⟨'"', _, rfl, by decide⟩
  | boolean value => cases value <;> exact ⟨_, _, rfl, by decide⟩
  | null | openArray | openObject => exact ⟨_, _, rfl, by decide⟩
  | _ => exact h.elim

namespace Spaced

theorem hasElement_close (h : Spaced (.closeArray :: tokens) rest) (first : Bool) :
    ∃ left, Spaced (.closeArray :: tokens) left ∧ hasElement first rest = .ok (false, left) := by
  obtain ⟨left, hleft, hpeek⟩ := h.peekToken
  refine ⟨_, hleft.cons .closeArray, ?_⟩
  simp [hasElement, bind_apply, hpeek, Token.chars, pure_apply]

theorem hasElement_tree {tree : Tree} (first : Bool)
    (h : Spaced ((if first then [] else [.comma]) ++ (tree.tokens ++ tokens)) rest) :
    ∃ left, Spaced (tree.tokens ++ tokens) left ∧ hasElement first rest = .ok (true, left) := by
  obtain ⟨token, more, htokens, hstarts⟩ := tree.exists_tokens
  obtain ⟨c, chars, hchars, hclose, _⟩ := hstarts.exists_chars
  rw [htokens] at h ⊢
  cases first with
  | true =>
      obtain ⟨left, hleft, hpeek⟩ := h.peekToken
      refine ⟨_, hleft.cons token, ?_⟩
      simp [hasElement, bind_apply, hpeek, hchars, hclose, pure_apply]
  | false =>
      obtain ⟨next, hnext, hcomma⟩ := h.peekToken
      obtain ⟨left, hleft, hpeek⟩ := hnext.peekToken
      refine ⟨_, hleft.cons token, ?_⟩
      rw [show Token.comma.chars = [','] from rfl] at hcomma
      simp [hasElement, bind_apply, hcomma, skip_cons, hpeek, hchars, hclose, pure_apply]

theorem hasMember_close (h : Spaced (.closeObject :: tokens) rest) (first : Bool) :
    ∃ left, Spaced (.closeObject :: tokens) left ∧ hasMember first rest = .ok (false, left) := by
  obtain ⟨left, hleft, hpeek⟩ := h.peekToken
  refine ⟨_, hleft.cons .closeObject, ?_⟩
  simp [hasMember, bind_apply, hpeek, Token.chars, pure_apply]

theorem hasMember_key {key : Spelling} (first : Bool)
    (h : Spaced ((if first then [] else [.comma]) ++ .text key :: tokens) rest) :
    ∃ left, Spaced tokens left ∧ hasMember first rest = .ok (true, key.chars ++ left) := by
  have hchars : (Token.text key).chars = '"' :: (key.glyphs.flatMap Glyph.chars ++ ['"']) := rfl
  cases first with
  | true =>
      obtain ⟨left, hleft, hpeek⟩ := h.peekToken
      refine ⟨left, hleft, ?_⟩
      simp [hasMember, bind_apply, hpeek, hchars, pure_apply, Spelling.chars]
  | false =>
      obtain ⟨next, hnext, hcomma⟩ := h.peekToken
      obtain ⟨left, hleft, hpeek⟩ := hnext.peekToken
      refine ⟨left, hleft, ?_⟩
      simp [hasMember, bind_apply, hcomma, Token.chars, skip_cons, hpeek, pure_apply,
        Spelling.chars]

theorem colon (h : Spaced (.colon :: tokens) rest) :
    ∃ left, Spaced tokens left ∧ Reader.colon rest = .ok ((), left) := by
  obtain ⟨left, hleft, hpeek⟩ := h.peekToken
  refine ⟨left, hleft, ?_⟩
  simp [Reader.colon, bind_apply, hpeek, Token.chars, skip_cons]

theorem closeArray (h : Spaced (.closeArray :: tokens) rest) :
    ∃ left, Spaced tokens left ∧ Reader.closeArray rest = .ok ((), left) := by
  obtain ⟨left, hleft, hpeek⟩ := h.peekToken
  refine ⟨left, hleft, ?_⟩
  simp [Reader.closeArray, bind_apply, hpeek, Token.chars, skip_cons]

theorem closeObject (h : Spaced (.closeObject :: tokens) rest) :
    ∃ left, Spaced tokens left ∧ Reader.closeObject rest = .ok ((), left) := by
  obtain ⟨left, hleft, hpeek⟩ := h.peekToken
  refine ⟨left, hleft, ?_⟩
  simp [Reader.closeObject, bind_apply, hpeek, Token.chars, skip_cons]

theorem row_cons {first : Bool} {item : List Token} {items : List (List Token)}
    (h : Spaced (row first (item :: items) ++ after) rest) :
    Spaced ((if first then [] else [.comma]) ++ (item ++ (row false items ++ after))) rest := by
  cases first <;> simpa [row] using h

end Spaced

theorem Gives.enclosed {body : Reader α} {close : Reader Unit} {result : Option α}
    {last : List Char} (hbody : Gives (body rest) result left)
    (hclose : close left = .ok ((), last)) : Gives (enclosed body close rest) result last := by
  unfold Reader.enclosed
  cases result with
  | some value =>
      rw [show body rest = .ok (value, left) from hbody]
      simp only [hclose]
      rfl
  | none =>
      obtain ⟨fault, hfault⟩ := hbody
      rw [hfault]
      simp only
      split <;> exact ⟨_, rfl⟩

theorem follows_row (items : List (List Token)) (close : Token) (hclose : close.IsMark) :
    Follows (row false items ++ close :: after) := by
  cases items with
  | nil => exact follows_cons close after hclose
  | cons item items => exact follows_cons .comma _ trivial

section Elements

variable {element : Reader α} {decode : Tree → Option α}

theorem gives_elementsFrom {trees : List Tree}
    (helement : ∀ tree ∈ trees, Reads element tree.tokens (decode tree)) (first : Bool) {fuel : Nat}
    (hfuel : trees.length < fuel)
    (hrest : Spaced (row first (trees.map Tree.tokens) ++ .closeArray :: after) rest) :
    ∃ left, Spaced (.closeArray :: after) left
      ∧ Gives (elementsFrom element fuel first rest) (trees.mapM decode) left := by
  induction trees generalizing first fuel rest with
  | nil =>
      obtain ⟨fuel, rfl⟩ := Nat.exists_eq_add_one_of_ne_zero (Nat.ne_zero_of_lt hfuel)
      obtain ⟨left, hleft, hnone⟩ := Spaced.hasElement_close
        (show Spaced (.closeArray :: after) rest by cases first <;> exact hrest) first
      refine ⟨left, hleft, ?_⟩
      rw [elementsFrom, bind_apply, hnone]
      rfl
  | cons tree trees ih =>
      obtain ⟨fuel, rfl⟩ := Nat.exists_eq_add_one_of_ne_zero (Nat.ne_zero_of_lt hfuel)
      obtain ⟨next, hnext, hsome⟩ := Spaced.hasElement_tree first hrest.row_cons
      obtain ⟨middle, hmiddle, hgives⟩ := helement tree List.mem_cons_self _ next
        (follows_row _ .closeArray trivial) hnext
      obtain ⟨left, hleft, hothers⟩ :=
        ih (fun tree hmem => helement tree (List.mem_cons_of_mem _ hmem)) false
          (Nat.lt_of_succ_lt_succ hfuel) hmiddle
      refine ⟨left, hleft, ?_⟩
      rw [elementsFrom, bind_apply, hsome, List.mapM_cons]
      exact hgives.bind fun value _ => hothers.bind fun _ _ => rfl

theorem gives_elements {trees : List Tree}
    (helement : ∀ tree ∈ trees, Reads element tree.tokens (decode tree)) (first : Bool)
    (hrest : Spaced (row first (trees.map Tree.tokens) ++ .closeArray :: after) rest) :
    ∃ left, Spaced (.closeArray :: after) left
      ∧ Gives (elements element first rest) (trees.mapM decode) left := by
  have hlength : trees.length < rest.length + 1 := by
    have hne : ∀ item ∈ trees.map Tree.tokens, item ≠ [] := by
      intro item hmem
      obtain ⟨tree, _, rfl⟩ := List.mem_map.mp hmem
      obtain ⟨token, more, htokens, _⟩ := tree.exists_tokens
      simp [htokens]
    have hrow := length_le_row first (trees.map Tree.tokens) hne
    have htext := hrest.length_le
    simp only [List.length_append, List.length_map, List.length_cons] at hrow htext
    omega
  exact gives_elementsFrom helement first hlength hrest

end Elements

section Members

variable {step : σ → String → Reader σ} {decode : σ → String → Tree → Option σ}

/-- A state that is passed through members as they are written. -/
def foldMembers? (decode : σ → String → Tree → Option σ) (state : σ) :
    List (Spelling × Tree) → Option σ
  | [] => some state
  | (key, tree) :: members => do
    let name ← key.text?
    let state ← decode state name tree
    foldMembers? decode state members

theorem gives_foldMembersFrom {members : List (Spelling × Tree)}
    (hstep : ∀ member ∈ members, ∀ state name, member.1.text? = some name →
      Reads (step state name) (.colon :: member.2.tokens) (decode state name member.2))
    (first : Bool) {fuel : Nat} (hfuel : members.length < fuel) (state : σ)
    (hrest : Spaced
      (row first (Tree.memberTokens members) ++ .closeObject :: after) rest) :
    ∃ left, Spaced (.closeObject :: after) left
      ∧ Gives (foldMembersFrom step fuel first state rest) (foldMembers? decode state members)
        left := by
  induction members generalizing first fuel state rest with
  | nil =>
      obtain ⟨fuel, rfl⟩ := Nat.exists_eq_add_one_of_ne_zero (Nat.ne_zero_of_lt hfuel)
      obtain ⟨left, hleft, hnone⟩ := Spaced.hasMember_close
        (show Spaced (.closeObject :: after) rest by cases first <;> exact hrest) first
      refine ⟨left, hleft, ?_⟩
      rw [foldMembersFrom, bind_apply, hnone]
      rfl
  | cons member members ih =>
      obtain ⟨fuel, rfl⟩ := Nat.exists_eq_add_one_of_ne_zero (Nat.ne_zero_of_lt hfuel)
      have hmember : Spaced ((if first then [] else [.comma]) ++ .text member.1
          :: ((.colon :: member.2.tokens)
            ++ (row false (Tree.memberTokens members) ++ .closeObject :: after))) rest :=
        hrest.row_cons
      obtain ⟨next, hnext, hsome⟩ := hmember.hasMember_key
      have hkey := member.1.gives_string next
      rw [foldMembersFrom, bind_apply, hsome]
      unfold foldMembers?
      cases hname : member.1.text? with
      | none =>
          -- The fault is in the key, and the text goes on behind it.
          obtain ⟨middle, hmiddle⟩ := hnext.exists_of_append
          obtain ⟨left, hleft⟩ := hmiddle.exists_of_append
          exact ⟨left, hleft, (hname ▸ hkey).bind_none⟩
      | some name =>
          obtain ⟨middle, hmiddle, hgives⟩ :=
            hstep member List.mem_cons_self state name hname _ next
              (follows_row _ .closeObject trivial) hnext
          have hstring : string (member.1.chars ++ next) = .ok (name, next) := by
            rw [hname] at hkey
            exact hkey
          simp only [if_true]
          rw [bind_apply, hstring]
          cases hdecode : decode state name member.2 with
          | none =>
              rw [hdecode] at hgives
              obtain ⟨left, hleft⟩ := hmiddle.exists_of_append
              refine ⟨left, hleft, ?_⟩
              change Gives _ ((decode state name member.2).bind _) left
              rw [hdecode]
              exact hgives.bind_none
          | some later =>
              obtain ⟨left, hleft, hothers⟩ := ih
                (fun member hmem => hstep member (List.mem_cons_of_mem _ hmem)) false
                (Nat.lt_of_succ_lt_succ hfuel) later hmiddle
              refine ⟨left, hleft, hgives.bind fun other hother => ?_⟩
              obtain rfl := Option.some_inj.mp (hdecode.symm.trans hother)
              exact hothers

theorem gives_foldMembers {members : List (Spelling × Tree)}
    (hstep : ∀ member ∈ members, ∀ state name, member.1.text? = some name →
      Reads (step state name) (.colon :: member.2.tokens) (decode state name member.2))
    (state : σ)
    (hrest : Spaced (row true (Tree.memberTokens members) ++ .closeObject :: after) rest) :
    ∃ left, Spaced (.closeObject :: after) left
      ∧ Gives (foldMembers step state rest) (foldMembers? decode state members) left := by
  have hlength : members.length < rest.length + 1 := by
    have hne : ∀ item ∈ Tree.memberTokens members, item ≠ [] := by
      rw [Tree.memberTokens_eq]
      intro item hmem
      obtain ⟨member, _, rfl⟩ := List.mem_map.mp hmem
      exact List.cons_ne_nil _ _
    have hrow := length_le_row true _ hne
    have htext := hrest.length_le
    simp only [Tree.memberTokens_eq, List.length_append, List.length_map, List.length_cons]
      at hrow htext
    omega
  exact gives_foldMembersFrom hstep true hlength state hrest

end Members

theorem Reads.colon {reader : Reader α} {result : Option α} (h : Reads reader tokens result) :
    Reads (do Reader.colon; reader) (.colon :: tokens) result := by
  intro after rest hafter hrest
  obtain ⟨next, hnext, hcolon⟩ := Spaced.colon hrest
  obtain ⟨left, hleft, hgives⟩ := h after next hafter hnext
  refine ⟨left, hleft, ?_⟩
  rw [bind_apply, hcolon]
  exact hgives

/-! ### Values -/

/-- Induction over a tree: a container has what its elements or members have. -/
theorem Tree.induction {motive : Tree → Prop} (null : motive .null)
    (boolean : ∀ value, motive (.boolean value)) (number : ∀ numeral, motive (.number numeral))
    (text : ∀ spelling, motive (.text spelling))
    (array : ∀ elements, (∀ element ∈ elements, motive element) → motive (.array elements))
    (object : ∀ members, (∀ member ∈ members, motive member.2) → motive (.object members)) :
    ∀ tree, motive tree
  | .null => null
  | .boolean value => boolean value
  | .number numeral => number numeral
  | .text spelling => text spelling
  | .array elements => array elements fun element _ =>
      induction null boolean number text array object element
  | .object members => object members fun member hmem =>
      have : sizeOf member.2 < 1 + sizeOf members := by
        obtain ⟨key, value⟩ := member
        have hlt := List.sizeOf_lt_of_mem hmem
        simp only [Prod.mk.sizeOf_spec] at hlt ⊢
        omega
      induction null boolean number text array object member.2
termination_by tree => tree

/-- A token that is read from its first character on. -/
structure ReadAsScalar (token : Token) (result : Option Value) : Prop where
  exists_chars : ∃ first more, token.chars = first :: more ∧ first ≠ '[' ∧ first ≠ '\x7b'
    ∧ ∀ left, Ends left → Gives (scalar first (token.chars ++ left)) result left

theorem readAsScalar_number (numeral : Numeral) :
    ReadAsScalar (.number numeral) (numeral.value?.map .number) := by
  obtain ⟨first, more, hchars, hfirst⟩ := numeral.exists_chars
  have hdigit : first = '-' ∨ first.isDigit = true := hfirst.imp And.right And.right
  have hother : ∀ c, c ≠ '-' → c.isDigit = false → first ≠ c := by
    rintro c hminus hc rfl
    rcases hdigit with h | h
    · exact hminus h
    · rw [hc] at h
      cases h
  have hread : scalar first = (do return .number (← number)) := by
    simp [scalar, hdigit, hother 'n' (by decide) (by decide), hother 't' (by decide) (by decide),
      hother 'f' (by decide) (by decide)]
  refine ⟨first, more, hchars, hother '[' (by decide) (by decide),
    hother '\x7b' (by decide) (by decide), fun left hleft => ?_⟩
  rw [hread]
  exact (numeral.gives_number hleft).map

theorem readAsScalar_text (spelling : Spelling) :
    ReadAsScalar (.text spelling) (spelling.text?.map .text) := by
  refine ⟨'"', _, rfl, by decide, by decide, fun left _ => ?_⟩
  have hread : scalar '"' = (do return .text (← string)) := by simp [scalar]
  rw [hread]
  exact (spelling.gives_string left).map

theorem readAsScalar_null : ReadAsScalar .null (some .null) :=
  ⟨'n', _, rfl, by decide, by decide, fun _ _ => rfl⟩

theorem readAsScalar_boolean (value : Bool) :
    ReadAsScalar (.boolean value) (some (.boolean value)) := by
  cases value <;> exact ⟨_, _, rfl, by decide, by decide, fun _ _ => rfl⟩

theorem ReadAsScalar.reads {token : Token} {result : Option Value}
    (h : ReadAsScalar token result) (depth : Nat) : Reads (value depth) [token] result := by
  intro after rest hafter hrest
  obtain ⟨first, more, hchars, harray, hobject, hscalar⟩ := h.exists_chars
  obtain ⟨left, hleft, hpeek⟩ := Spaced.peekToken hrest
  refine ⟨left, hleft, ?_⟩
  have hvalue : value depth rest = scalar first (token.chars ++ left) := by
    rw [hchars] at hpeek ⊢
    cases depth with
    | zero => simp [value, bind_apply, hpeek]
    | succ depth => simp [value, bind_apply, hpeek]
  rw [hvalue]
  exact hscalar left (hleft.ends hafter)

theorem Tree.elementValues?_eq (depth : Nat) (elements : List Tree) :
    elements.mapM (Tree.value? depth) = elementValues? depth elements := by
  induction elements with
  | nil => rfl
  | cons element rest ih => rw [List.mapM_cons, ih, elementValues?]

/-- The step that puts a member in front of those that have been read. -/
def Tree.collect? (depth : Nat) (collected : List (String × Value)) (name : String) (tree : Tree) :
    Option (List (String × Value)) :=
  (tree.value? depth).map fun value => (name, value) :: collected

theorem Tree.foldMembers?_collect? (depth : Nat) (collected : List (String × Value))
    (entries : List (Spelling × Tree)) :
    foldMembers? (collect? depth) collected entries
      = (memberValues? depth entries).map fun values => values.reverse ++ collected := by
  induction entries generalizing collected with
  | nil => rfl
  | cons entry entries ih =>
      obtain ⟨key, tree⟩ := entry
      simp only [foldMembers?, memberValues?, collect?]
      cases key.text? with
      | none => rfl
      | some name =>
          cases tree.value? depth with
          | none => rfl
          | some value =>
              simp only [Option.bind_eq_bind, Option.bind_some, Option.map_some, ih]
              cases memberValues? depth entries <;> simp

theorem gives_members {depth : Nat} {entries : List (Spelling × Tree)}
    (h : ∀ entry ∈ entries, Reads (value depth) entry.2.tokens (entry.2.value? depth))
    (hrest : Spaced (row true (Tree.memberTokens entries) ++ .closeObject :: after) rest) :
    ∃ left, Spaced (.closeObject :: after) left
      ∧ Gives (members (value depth) rest) (Tree.memberValues? depth entries) left := by
  have hstep : ∀ entry ∈ entries, ∀ collected name, entry.1.text? = some name →
      Reads ((fun collected key => do
          Reader.colon
          return (key, ← value depth) :: collected) collected name)
        (.colon :: entry.2.tokens) (Tree.collect? depth collected name entry.2) :=
    fun entry hmem collected name _ => (h entry hmem).map.colon
  obtain ⟨left, hleft, hgives⟩ := gives_foldMembers hstep [] hrest
  refine ⟨left, hleft, ?_⟩
  have hvalues : Tree.memberValues? depth entries
      = (foldMembers? (Tree.collect? depth) [] entries).map List.reverse := by
    have htwice :
        (List.reverse ∘ fun values : List (String × Value) => values.reverse ++ []) = id := by
      funext values
      simp
    rw [Tree.foldMembers?_collect?, Option.map_map, htwice, Option.map_id, id]
  rw [hvalues]
  exact hgives.map

theorem reads_array {depth : Nat} {trees : List Tree}
    (h : ∀ tree ∈ trees, Reads (value depth) tree.tokens (tree.value? depth)) :
    Reads (value (depth + 1)) (Tree.array trees).tokens
      ((Tree.array trees).value? (depth + 1)) := by
  intro after rest _ hrest
  rw [Tree.tokens, intercalate_eq_row, Tree.elementTokens_eq, List.cons_append,
    List.append_assoc] at hrest
  obtain ⟨next, hnext, hpeek⟩ := hrest.peekToken
  obtain ⟨middle, hmiddle, hgives⟩ := gives_elements h true hnext
  obtain ⟨left, hleft, hclose⟩ := hmiddle.closeArray
  refine ⟨left, hleft, ?_⟩
  have hread : value (depth + 1) rest
      = (do return .array (← enclosed (elements (value depth) true) Reader.closeArray)
          : Reader Value) next := by
    rw [value, bind_apply, hpeek]
    rfl
  rw [hread, Tree.value?, ← Tree.elementValues?_eq]
  exact (hgives.enclosed hclose).map

theorem reads_object {depth : Nat} {entries : List (Spelling × Tree)}
    (h : ∀ entry ∈ entries, Reads (value depth) entry.2.tokens (entry.2.value? depth)) :
    Reads (value (depth + 1)) (Tree.object entries).tokens
      ((Tree.object entries).value? (depth + 1)) := by
  intro after rest _ hrest
  rw [Tree.tokens, intercalate_eq_row, List.cons_append, List.append_assoc] at hrest
  obtain ⟨next, hnext, hpeek⟩ := hrest.peekToken
  obtain ⟨middle, hmiddle, hgives⟩ := gives_members h hnext
  obtain ⟨left, hleft, hclose⟩ := hmiddle.closeObject
  refine ⟨left, hleft, ?_⟩
  have hread : value (depth + 1) rest
      = (do return .object (← enclosed (members (value depth)) Reader.closeObject)
          : Reader Value) next := by
    rw [value, bind_apply, hpeek]
    rfl
  rw [hread, Tree.value?]
  exact (hgives.enclosed hclose).map

theorem reads_nothing {token : Token} {more : List Token}
    (htoken : token = .openArray ∨ token = .openObject) :
    Reads (value 0) (token :: more) none := by
  intro after rest _ hrest
  obtain ⟨next, hnext, hpeek⟩ := Spaced.peekToken hrest
  obtain ⟨left, hleft⟩ := Spaced.exists_of_append hnext
  refine ⟨left, hleft, ?_⟩
  rcases htoken with rfl | rfl <;>
    exact ⟨_, by simp [value, bind_apply, hpeek, Token.chars, failAhead_apply]; rfl⟩

/-- **A value is read as the value of its tree.** -/
theorem reads_value (tree : Tree) (depth : Nat) :
    Reads (value depth) tree.tokens (tree.value? depth) := by
  induction tree using Tree.induction generalizing depth with
  | null => exact readAsScalar_null.reads depth
  | boolean value => exact (readAsScalar_boolean value).reads depth
  | number numeral => exact (readAsScalar_number numeral).reads depth
  | text spelling => exact (readAsScalar_text spelling).reads depth
  | array elements ih =>
      cases depth with
      | zero => exact reads_nothing (Or.inl rfl)
      | succ depth => exact reads_array fun element hmem => ih element hmem depth
  | object members ih =>
      cases depth with
      | zero => exact reads_nothing (Or.inr rfl)
      | succ depth => exact reads_object fun member hmem => ih member hmem depth

/-! ### Whole texts -/

theorem finish_blanks (h : Blanks rest) : finish rest = .ok ((), []) := by
  simp [Reader.finish, bind_apply, h.peekToken, pure_apply]

theorem toOption_readAll {reader : Reader α} {result : Option α} {text : List Char}
    (h : Reads reader tokens result) (htext : Spaced tokens text) :
    (readAll reader text).toOption = result := by
  obtain ⟨left, hleft, hgives⟩ := h [] text follows_nil (by simpa using htext)
  unfold readAll
  cases result with
  | none =>
      obtain ⟨fault, hfault⟩ := hgives
      simp [bind_apply, hfault, Except.toOption]
  | some value =>
      have hread : reader text = .ok (value, left) := hgives
      have hwhole : (do
          let value ← reader
          Reader.finish
          return value : Reader α) text = .ok (value, []) := by
        simp only [bind_apply, hread, finish_blanks hleft, pure_apply]
      simp only [hwhole]
      rfl

theorem Tree.Spells.toOption_ofText? {tree : Tree} {text : String} (h : tree.Spells text) :
    (Value.ofText? text).toOption = tree.value? depthLimit :=
  toOption_readAll (reads_value tree depthLimit) h

end Retry.Json
