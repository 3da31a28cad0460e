import Mathlib.Data.List.Forall2
import Retry.Json.Printer
import Retry.Proofs.Decimal.Shortest
import Retry.Proofs.Json.Document

/-!
# Trees as they are printed

What is printed of a value is a JSON text: `Value.tree` is the tree that it spells, and both of its
texts differ only in their blanks (`Value.spells_compact`, `Value.spells_indented`). Nothing is
claimed here about the value of that tree. It may be another one, since a number that is not finite
is printed as `null` and the digits of one that is finite may be read as a neighbour.
-/

namespace Retry.Json

open Decimal (zeros)

/-! ### Strings -/

theorem length_escapeDigits {code : Nat} (h : code < 32) :
    (escapeDigits code).length = 4 ∧ hexNumber? (escapeDigits code) = some code := by
  decide +revert

def Glyph.ofChar (c : Char) : Glyph :=
  if hquote : c = '"' then .short '"' c (by subst hquote; decide)
  else if hslash : c = '\\' then .short '\\' c (by subst hslash; decide)
  else if hcode : 32 ≤ c.toNat then .plain c ⟨hquote, hslash, hcode⟩
  else if h : c = '\x08' then .short 'b' c (by subst h; decide)
  else if h : c = '\x0c' then .short 'f' c (by subst h; decide)
  else if h : c = '\n' then .short 'n' c (by subst h; decide)
  else if h : c = '\r' then .short 'r' c (by subst h; decide)
  else if h : c = '\t' then .short 't' c (by subst h; decide)
  else .code (escapeDigits c.toNat) c.toNat (length_escapeDigits (Nat.lt_of_not_le hcode))

theorem Glyph.chars_ofChar (c : Char) : (Glyph.ofChar c).chars = escaped c := by
  unfold Glyph.ofChar
  iterate 2 (split; · next h => subst h; rfl)
  split
  · next hquote hslash hcode =>
    unfold escaped
    split
    case h_8 => rw [if_neg (Nat.not_lt.mpr hcode), Glyph.chars]
    case h_1 => exact absurd rfl hquote
    case h_2 => exact absurd rfl hslash
    all_goals exact absurd hcode (by decide)
  · next hquote hslash hcode =>
    iterate 5 (split; · next h => subst h; rfl)
    unfold escaped
    split <;> first | contradiction | skip
    rw [if_pos (Nat.lt_of_not_le hcode)]
    rfl

theorem Spelling.characters?_ofChar (c : Char) (glyphs : List Glyph) :
    characters? (Glyph.ofChar c :: glyphs) = (characters? glyphs).map (c :: ·) := by
  unfold Glyph.ofChar
  iterate 2 (split; · rfl)
  split
  · rfl
  · next hquote hslash hcode =>
    iterate 5 (split; · rfl)
    have hlow : isLowSurrogate c.toNat = false := by simp [isLowSurrogate]; omega
    have hhigh : isHighSurrogate c.toNat = false := by simp [isHighSurrogate]; omega
    rw [characters?.eq_def (_ :: glyphs)]
    simp [hlow, hhigh]

def Spelling.ofString (text : String) : Spelling := ⟨text.toList.map Glyph.ofChar⟩

theorem Spelling.chars_ofString (text : String) : (ofString text).chars = (quoted text).toList := by
  have hglyphs : (text.toList.map Glyph.ofChar).flatMap Glyph.chars
      = text.toList.flatMap escaped := by
    rw [List.flatMap_map]
    exact congrArg (fun f => text.toList.flatMap f) (funext Glyph.chars_ofChar)
  rw [chars, ofString, quoted, hglyphs, String.toList_ofList]

@[simp]
theorem Spelling.text?_ofString (text : String) : (ofString text).text? = some text := by
  have hcharacters (list : List Char) : characters? (list.map Glyph.ofChar) = some list := by
    induction list with
    | nil => rfl
    | cons c list ih => rw [List.map_cons, characters?_ofChar, ih, Option.map_some]
  rw [text?, ofString, hcharacters, Option.map_some, String.ofList_toList]

/-! ### Numbers -/

theorem isDigits_toDigits (n : Nat) : IsDigits (Nat.toDigits 10 n) :=
  ⟨Nat.toDigits_ne_nil, fun _ hc => Nat.isDigit_of_mem_toDigits (by decide) (by decide) hc⟩

theorem head?_append {list : List Char} (h : list ≠ []) (more : List Char) :
    (list ++ more).head? = list.head? := by
  obtain ⟨first, rest, rfl⟩ := List.exists_cons_of_ne_nil h
  rfl

theorem head?_toDigits {n : Nat} (h : 0 < n) : (Nat.toDigits 10 n).head? ≠ some '0' := by
  induction n using Nat.strongRecOn with
  | ind n ih =>
      rw [Nat.toDigits_eq_if (by decide)]
      split
      · next hsmall =>
        have hall : ∀ n < 10, 0 < n → [Nat.digitChar n].head? ≠ some '0' := by decide
        exact hall n hsmall h
      · rw [head?_append Nat.toDigits_ne_nil]
        exact ih (n / 10) (by omega) (by omega)

theorem IsDigits.append {digits more : List Char} (h : IsDigits digits)
    (hmore : ∀ c ∈ more, c.isDigit = true) : IsDigits (digits ++ more) :=
  ⟨fun h' => h.ne_nil (List.append_eq_nil_iff.mp h').1, fun c hc =>
    (List.mem_append.mp hc).elim (h.isDigit c) (hmore c)⟩

theorem isDigit_of_mem_zeros {count : Nat} {c : Char} (h : c ∈ zeros count) : c.isDigit = true := by
  rw [List.eq_of_mem_replicate h]
  rfl

/-- The digits of a positive number, which do not begin with a zero. -/
structure Significant (digits : List Char) : Prop extends IsDigits digits where
  head_ne : digits.head? ≠ some '0'

theorem significant_digits {n : Nat} (h : 0 < n) : Significant (Decimal.digits n) :=
  ⟨isDigits_toDigits n, head?_toDigits h⟩

namespace Significant

variable {digits : List Char} (h : Significant digits)

include h

theorem head_append_ne (more : List Char) : (digits ++ more).head? ≠ some '0' := by
  rw [head?_append h.ne_nil]
  exact h.head_ne

theorem take {count : Nat} (hcount : count ≠ 0) : Significant (digits.take count) where
  ne_nil := fun hnil => (List.take_eq_nil_iff.mp hnil).elim hcount h.ne_nil
  isDigit := fun c hc => h.isDigit c (List.mem_of_mem_take hc)
  head_ne := by
    rw [List.head?_take, if_neg hcount]
    exact h.head_ne

theorem drop {count : Nat} (hcount : count < digits.length) : IsDigits (digits.drop count) where
  ne_nil := fun hnil => absurd (List.drop_eq_nil_iff.mp hnil) (Nat.not_le.mpr hcount)
  isDigit := fun c hc => h.isDigit c (List.mem_of_mem_drop hc)

end Significant

namespace Numeral

def ofInt (value : Int) : Numeral where
  negative := value < 0
  whole := Nat.toDigits 10 value.natAbs
  fraction := none
  exponent := none
  whole_isDigits := isDigits_toDigits _
  whole_canonical := fun hzero => by
    rcases Nat.eq_zero_or_pos value.natAbs with h | h
    · rw [h]
      rfl
    · exact absurd hzero (head?_toDigits h)
  fraction_isDigits := nofun

/-- A zero that is not an integer. -/
def zero (negative : Bool) : Numeral where
  negative := negative
  whole := ['0']
  fraction := some ['0']
  exponent := none
  whole_isDigits := ⟨by simp, by simp⟩
  whole_canonical := fun _ => rfl
  fraction_isDigits := by
    rintro _ ⟨⟩
    exact ⟨by simp, by simp⟩

/-- Digits with a point, the first digit having the decimal exponent `leading`. -/
def positional (negative : Bool) (digits : List Char) (h : Significant digits) (leading : Int) :
    Numeral :=
  if hleading : leading < 0 then
    { negative, whole := ['0'], fraction := some (zeros (-leading - 1).toNat ++ digits)
      exponent := none
      whole_isDigits := ⟨by simp, by simp⟩
      whole_canonical := fun _ => rfl
      fraction_isDigits := by
        rintro _ ⟨⟩
        exact ⟨fun hnil => h.ne_nil (List.append_eq_nil_iff.mp hnil).2, fun c hc =>
          (List.mem_append.mp hc).elim isDigit_of_mem_zeros (h.isDigit c)⟩ }
  else if hlength : digits.length ≤ leading.toNat + 1 then
    { negative, whole := digits ++ zeros (leading.toNat + 1 - digits.length)
      fraction := some ['0'], exponent := none
      whole_isDigits := h.append fun _ => isDigit_of_mem_zeros
      whole_canonical := fun hzero => absurd hzero (h.head_append_ne _)
      fraction_isDigits := by
        rintro _ ⟨⟩
        exact ⟨by simp, by simp⟩ }
  else
    { negative, whole := digits.take (leading.toNat + 1)
      fraction := some (digits.drop (leading.toNat + 1)), exponent := none
      whole_isDigits := (h.take (Nat.succ_ne_zero _)).toIsDigits
      whole_canonical := fun hzero => absurd hzero (h.take (Nat.succ_ne_zero _)).head_ne
      fraction_isDigits := by
        rintro _ ⟨⟩
        exact h.drop (Nat.lt_of_not_le hlength) }

/-- Digits with a point behind the first one and an exponent. -/
def scientific (negative : Bool) (digits : List Char) (h : Significant digits) (leading : Int) :
    Numeral where
  negative := negative
  whole := digits.take 1
  fraction := if digits.length ≤ 1 then none else some (digits.drop 1)
  exponent := some
    { mark := 'e', sign := some (if leading < 0 then '-' else '+')
      digits := Decimal.digits leading.natAbs
      mark_eq := .inl rfl
      sign_eq := by
        rintro _ ⟨⟩
        split
        · exact .inr rfl
        · exact .inl rfl
      isDigits := isDigits_toDigits _ }
  whole_isDigits := (h.take (by decide)).toIsDigits
  whole_canonical := fun hzero => absurd hzero (h.take (by decide)).head_ne
  fraction_isDigits := by
    intro written hwritten
    split at hwritten
    · cases hwritten
    · next hlength =>
      cases hwritten
      exact h.drop (Nat.lt_of_not_le hlength)

/-- A positive decimal in the layout of numbers. -/
def ofDecimal (negative : Bool) (decimal : Decimal) (h : 0 < decimal.coefficient) : Numeral :=
  let digits := Decimal.digits decimal.coefficient
  let leading := decimal.exponent + (digits.length - 1)
  if numberLayout.positional leading then positional negative digits (significant_digits h) leading
  else scientific negative digits (significant_digits h) leading

/-- A number of double precision, from its sign and its count of units. -/
def ofUnits (negative : Bool) (units : Nat) : Numeral :=
  if h : units = 0 then zero negative
  else
    ofDecimal negative (Decimal.shortest numberLayout.tie units)
      (Decimal.coefficient_shortest_pos _ (Nat.pos_of_ne_zero h))

theorem chars_ofInt (value : Int) : (ofInt value).chars = (toString value).toList := by
  have hnat (n : Nat) : (Nat.repr n).toList = Nat.toDigits 10 n := by
    rw [Nat.repr, String.toList_ofList]
  cases value with
  | ofNat n => simp [ofInt, chars, fractionChars, exponentChars, toString, Int.repr, hnat]
  | negSucc n => simp [ofInt, chars, fractionChars, exponentChars, toString, Int.repr, hnat]

theorem chars_positional (negative : Bool) {digits : List Char} (h : Significant digits)
    (leading : Int) : (positional negative digits h leading).chars
      = (if negative then ['-'] else []) ++ Decimal.positionalText numberLayout digits leading := by
  unfold positional Decimal.positionalText
  by_cases hleading : leading < 0
  · simp [hleading, chars, fractionChars, exponentChars]
  · by_cases hlength : digits.length ≤ leading.toNat + 1
    · simp [hleading, hlength, chars, fractionChars, exponentChars, numberLayout]
    · simp [hleading, hlength, chars, fractionChars, exponentChars]

theorem chars_scientific (negative : Bool) {digits : List Char} (h : Significant digits)
    (leading : Int) : (scientific negative digits h leading).chars
      = (if negative then ['-'] else []) ++ Decimal.scientificText numberLayout digits leading := by
  simp only [scientific, Decimal.scientificText, chars, fractionChars, exponentChars,
    Exponent.chars, numberLayout]
  by_cases hlength : digits.length ≤ 1 <;> by_cases hleading : leading < 0 <;>
    simp [hlength, hleading] <;> rfl

theorem chars_ofUnits (negative : Bool) (units : Nat) : (ofUnits negative units).chars
    = (if negative then ['-'] else []) ++ Decimal.magnitudeText numberLayout units := by
  unfold ofUnits Decimal.magnitudeText
  by_cases hunits : units = 0
  · rw [dif_pos hunits, if_pos hunits]
    rfl
  · rw [dif_neg hunits, if_neg hunits]
    unfold ofDecimal
    simp only
    split
    · exact chars_positional ..
    · exact chars_scientific ..

end Numeral

/-! ### Values -/

def Number.tree : Number → Tree
  | .integer value => .number (.ofInt value)
  | .float (.finite negative units _) => .number (.ofUnits negative units)
  | .float _ => .null

namespace Value

mutual

/-- The tree that is printed of a value. -/
def tree : Value → Tree
  | .null => .null
  | .boolean value => .boolean value
  | .number value => value.tree
  | .text value => .text (.ofString value)
  | .array elements => .array (treeElements elements)
  | .object members => .object (treeMembers members)

def treeElements : List Value → List Tree
  | [] => []
  | element :: rest => element.tree :: treeElements rest

def treeMembers : List (String × Value) → List (Spelling × Tree)
  | [] => []
  | (name, value) :: rest => (.ofString name, value.tree) :: treeMembers rest

end

end Value

theorem Spaced.number (value : Number) : Spaced value.tree.tokens value.text.toList := by
  have hnull : Spaced [.null] ['n', 'u', 'l', 'l'] := .singleton .null
  cases value with
  | integer value =>
      have h := Spaced.singleton (.number (.ofInt value))
      rwa [Token.chars, Numeral.chars_ofInt] at h
  | float value =>
      cases value with
      | finite negative units representable =>
          have h := Spaced.singleton (.number (.ofUnits negative units))
          rw [Token.chars, Numeral.chars_ofUnits] at h
          have htext : (Number.float (.finite negative units representable)).text.toList
              = (if negative then ['-'] else []) ++ Decimal.magnitudeText numberLayout units := by
            cases negative <;> simp [Number.text, Binary64.isFinite, Binary64.text]
          rw [htext]
          exact h
      | nan => exact hnull
      | infinity => simpa [Number.tree, Tree.tokens, Number.text, Binary64.isFinite] using hnull

theorem Spaced.boolean (value : Bool) : Spaced [.boolean value] (boolText value).toList := by
  have h := Spaced.singleton (.boolean value)
  cases value <;> exact h

theorem Spaced.quoted (text : String) :
    Spaced [.text (.ofString text)] (Json.quoted text).toList := by
  have h := Spaced.singleton (.text (.ofString text))
  rwa [Token.chars, Spelling.chars_ofString] at h

theorem Spaced.intercalate {gap : List Char} (hgap : Blanks gap) {items : List (List Token)}
    {parts : List (List Char)} (h : List.Forall₂ Spaced items parts) :
    Spaced ([Token.comma].intercalate items) ((',' :: gap).intercalate parts) := by
  induction h with
  | nil => exact Blanks.nil
  | @cons item part items parts hpart hparts ih =>
      cases hparts with
      | nil => simpa using hpart
      | cons hnext hrest =>
          rw [List.intercalate_cons_cons, List.intercalate_cons_cons, List.append_assoc,
            List.append_assoc]
          exact hpart.append ((ih.blanks_append hgap).cons .comma)

theorem Spaced.enclosed (opening closing : Token) {tokens : List Token} {text : List Char}
    (h : Spaced tokens text) : Spaced (opening :: (tokens ++ [closing]))
      (opening.chars ++ (text ++ closing.chars)) :=
  (h.append (.singleton closing)).cons opening

namespace Value

mutual

/-- **The compact text of a value spells its tree.** -/
theorem spaced_compact : (value : Value) → Spaced value.tree.tokens value.compact.toList
  | .null => .singleton .null
  | .boolean value => .boolean value
  | .number value => .number value
  | .text value => .quoted value
  | .array elements => by
      have h := (Spaced.intercalate .nil (spaced_compactElements elements)).enclosed
        .openArray .closeArray
      simpa [tree, Tree.tokens, compact, Token.chars] using h
  | .object members => by
      have h := (Spaced.intercalate .nil (spaced_compactMembers members)).enclosed
        .openObject .closeObject
      simpa [tree, Tree.tokens, compact, Token.chars] using h

theorem spaced_compactElements : (elements : List Value) →
    List.Forall₂ Spaced (Tree.elementTokens (treeElements elements))
      ((compactElements elements).map String.toList)
  | [] => .nil
  | element :: rest => .cons (spaced_compact element) (spaced_compactElements rest)

theorem spaced_compactMembers : (members : List (String × Value)) →
    List.Forall₂ Spaced (Tree.memberTokens (treeMembers members))
      ((compactMembers members).map String.toList)
  | [] => .nil
  | (name, value) :: rest => .cons
      (by
        have h := (Spaced.quoted name).append ((spaced_compact value).cons .colon)
        simpa [Token.chars] using h)
      (spaced_compactMembers rest)

end

theorem blanks_margin (depth : Nat) : Blanks (margin depth).toList := by
  intro c hc
  rw [margin, String.toList_ofList] at hc
  rw [List.eq_of_mem_replicate hc]
  rfl

theorem spaced_block {opening closing : Token} {first last : String} (depth : Nat)
    {items : List (List Token)} {parts : List String} (hfirst : first.toList = opening.chars)
    (hlast : last.toList = closing.chars)
    (h : List.Forall₂ Spaced items (parts.map String.toList)) :
    Spaced (opening :: ([Token.comma].intercalate items ++ [closing]))
      (block depth first last parts).toList := by
  have hnewline : Blanks ['\n'] := by simp [Blanks, Reader.isBlank]
  have hlines : List.Forall₂ Spaced items
      ((parts.map (margin (depth + 1) ++ ·)).map String.toList) := by
    rw [List.map_map, List.forall₂_map_right_iff]
    rw [List.forall₂_map_right_iff] at h
    refine h.imp fun tokens part hpart => ?_
    rw [Function.comp_apply, String.toList_append]
    exact hpart.blanks_append (blanks_margin _)
  unfold block
  split
  · next hempty =>
    obtain rfl := List.isEmpty_iff.mp hempty
    cases h
    rw [String.toList_append, hfirst, hlast]
    exact Spaced.enclosed opening closing (show Spaced [] [] from Blanks.nil)
  · have hend : Spaced [] ('\n' :: (margin depth).toList) := hnewline.append (blanks_margin depth)
    have hlist := ((Spaced.intercalate hnewline hlines).blanks_append hnewline).append hend
    have hbody := hlist.enclosed opening closing
    simpa [String.toList_intercalate, hfirst, hlast] using hbody

mutual

/-- **The indented text of a value spells its tree**, whatever its depth is. -/
theorem spaced_indentedAt (depth : Nat) :
    (value : Value) → Spaced value.tree.tokens (value.indentedAt depth).toList
  | .null => by
      simpa [tree, Tree.tokens, indentedAt, Token.chars] using Spaced.singleton .null
  | .boolean value => .boolean value
  | .number value => .number value
  | .text value => .quoted value
  | .array elements => spaced_block depth rfl rfl (spaced_indentedElements (depth + 1) elements)
  | .object members => spaced_block depth rfl rfl (spaced_indentedMembers (depth + 1) members)

theorem spaced_indentedElements (depth : Nat) : (elements : List Value) →
    List.Forall₂ Spaced (Tree.elementTokens (treeElements elements))
      ((indentedElements depth elements).map String.toList)
  | [] => .nil
  | element :: rest => .cons (spaced_indentedAt depth element) (spaced_indentedElements depth rest)

theorem spaced_indentedMembers (depth : Nat) : (members : List (String × Value)) →
    List.Forall₂ Spaced (Tree.memberTokens (treeMembers members))
      ((indentedMembers depth members).map String.toList)
  | [] => .nil
  | (name, value) :: rest => .cons
      (by
        have hblank : Blanks [' '] := by simp [Blanks, Reader.isBlank]
        have h := (Spaced.quoted name).append
          (((spaced_indentedAt depth value).blanks_append hblank).cons .colon)
        simpa [Token.chars] using h)
      (spaced_indentedMembers depth rest)

end

theorem spells_compact (value : Value) : value.tree.Spells value.compact := spaced_compact value

theorem spells_indented (value : Value) : value.tree.Spells value.indented :=
  spaced_indentedAt 0 value

theorem spells_members {members : List (String × Value)} {text : String}
    (h : (Value.object members).compact = text) :
    (Tree.object (treeMembers members)).Spells text := by
  have hspells := spells_compact (.object members)
  rwa [tree, h] at hspells

end Value

end Retry.Json
