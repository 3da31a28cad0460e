import Retry.Proofs.Json.Reads

/-!
# Strings as they are written

A string is read up to its closing quote, glyph by glyph (`Spelling.gives_string`). It fails exactly
where a half of a surrogate pair stands alone.
-/

namespace Retry.Json

open Reader

variable {left : List Char}

theorem length_le_utf8ByteSize (text : List Char) :
    text.length ≤ (String.ofList text).utf8ByteSize := by
  induction text with
  | nil => exact Nat.zero_le _
  | cons c rest ih =>
      have hc := c.utf8Size_pos
      rw [String.ofList_cons, String.utf8ByteSize_append, String.utf8ByteSize_singleton,
        List.length_cons]
      omega

theorem escapedCode_append {digits : List Char} {code : Nat} (hlength : digits.length = 4)
    (hcode : hexNumber? digits = some code) :
    escapedCode (digits ++ left) = .ok (code, left) := by
  have htake : (digits ++ left).take 4 = digits := by
    rw [← hlength]
    exact List.take_left
  have hdrop : (digits ++ left).drop 4 = left := by
    rw [← hlength]
    exact List.drop_left
  have hsize : ¬ (String.ofList digits).utf8ByteSize < 4 := by
    have hle := length_le_utf8ByteSize digits
    omega
  unfold escapedCode
  rw [htake, if_neg hsize]
  simp only [hcode, hdrop]

theorem escape_short {letter c : Char} (h : (letter, c) ∈ shortEscapes) :
    escape (letter :: left) = .ok (c, left) := by
  simp only [shortEscapes, List.mem_cons, Prod.mk.injEq, List.not_mem_nil, or_false] at h
  rcases h with h | h | h | h | h | h | h | h <;> obtain ⟨rfl, rfl⟩ := h <;> rfl

theorem characters_plain {c : Char} (h : c ≠ '"' ∧ c ≠ '\\' ∧ 32 ≤ c.toNat) (fuel : Nat)
    (rest : List Char) :
    characters (fuel + 1) (c :: rest)
      = (do return c :: (← characters fuel) : Reader (List Char)) rest := by
  obtain ⟨hquote, hslash, hcontrol⟩ := h
  have hcontrol : ¬ c.toNat < 32 := by omega
  simp only [characters, bind_apply, peek_apply, skip_cons, List.head?_cons, hquote, hslash,
    hcontrol, if_false]

theorem characters_escape {c : Char} {rest next : List Char} (h : escape rest = .ok (c, next))
    (fuel : Nat) :
    characters (fuel + 1) ('\\' :: rest)
      = (do return c :: (← characters fuel) : Reader (List Char)) next := by
  change (do
    let c ← escape
    return c :: (← characters fuel) : Reader (List Char)) rest = _
  rw [bind_apply, h]

theorem exists_fault_of_escape {rest : List Char} (h : ∃ fault, escape rest = .error fault)
    (fuel : Nat) : ∃ fault, characters (fuel + 1) ('\\' :: rest) = .error fault := by
  obtain ⟨fault, hfault⟩ := h
  refine ⟨fault, ?_⟩
  change (do
    let c ← escape
    return c :: (← characters fuel) : Reader (List Char)) rest = _
  rw [bind_apply, hfault]

theorem escape_code {digits : List Char} {code : Nat}
    (h : digits.length = 4 ∧ hexNumber? digits = some code) (rest : List Char) :
    escape ('u' :: (digits ++ rest))
      = (if isLowSurrogate code then fail .loneSurrogate
        else if isHighSurrogate code then do
          pairMark '\\'
          pairMark 'u'
          let low ← escapedCode
          if isLowSurrogate low then return ofSurrogates code low else fail .loneSurrogate
        else return Char.ofNat code : Reader Char) rest := by
  change escapedCharacter (digits ++ rest) = _
  unfold escapedCharacter
  rw [bind_apply, escapedCode_append h.1 h.2]

theorem pairMark_cons (mark : Char) (rest : List Char) :
    pairMark mark (mark :: rest) = .ok ((), rest) := by
  simp [pairMark, bind_apply, peek_apply, skip_cons]

theorem pairMark_of_ne {c mark : Char} (h : c ≠ mark) (rest : List Char) :
    pairMark mark (c :: rest) = failAhead .unpairedEscape (c :: rest) := by
  simp only [pairMark, bind_apply, peek_apply, List.head?_cons, h, if_false]

/-- After a high surrogate the text goes on with the code of a low one, or the string is faulty. -/
theorem exists_fault_of_high {digits : List Char} {code : Nat}
    (h : digits.length = 4 ∧ hexNumber? digits = some code)
    (hhigh : isHighSurrogate code = true) {glyphs : List Glyph}
    (hnext : ∀ digits low h rest, glyphs = .code digits low h :: rest →
      isLowSurrogate low = false) :
    ∃ fault, escape ('u' :: (digits ++ (glyphs.flatMap Glyph.chars ++ '"' :: left)))
      = .error fault := by
  rw [escape_code h]
  split
  · exact ⟨_, rfl⟩
  · cases glyphs with
    | nil => exact ⟨_, rfl⟩
    | cons glyph rest =>
        cases glyph with
        | plain c hc =>
            simp [Glyph.chars, bind_apply, pairMark_of_ne hc.2.1, failAhead_apply]
        | short letter c hc =>
            have hletter : letter ≠ 'u' := by
              rintro rfl
              simp [shortEscapes] at hc
            simp [Glyph.chars, bind_apply, pairMark_cons, pairMark_of_ne hletter, failAhead_apply]
        | code digits low hcode =>
            have hlow := hnext digits low hcode rest rfl
            simp [Glyph.chars, bind_apply, pairMark_cons, escapedCode_append hcode.1 hcode.2, hlow,
              fail_apply]

theorem Spelling.gives_characters (glyphs : List Glyph) {fuel : Nat}
    (hfuel : glyphs.length ≤ fuel) :
    Gives (characters (fuel + 1) (glyphs.flatMap Glyph.chars ++ '"' :: left))
      (Spelling.characters? glyphs) left := by
  fun_induction Spelling.characters? glyphs generalizing fuel with
  | case1 => rfl
  | case2 c h rest ih =>
      obtain ⟨fuel, rfl⟩ := Nat.exists_eq_add_one_of_ne_zero (Nat.ne_zero_of_lt hfuel)
      simp only [List.flatMap_cons, Glyph.chars, List.cons_append, List.nil_append,
        characters_plain h]
      exact (ih (Nat.le_of_succ_le_succ hfuel)).map
  | case3 letter c h rest ih =>
      obtain ⟨fuel, rfl⟩ := Nat.exists_eq_add_one_of_ne_zero (Nat.ne_zero_of_lt hfuel)
      simp only [List.flatMap_cons, Glyph.chars, List.cons_append, List.nil_append,
        characters_escape (escape_short h)]
      exact (ih (Nat.le_of_succ_le_succ hfuel)).map
  | case4 digits code h rest hlow =>
      -- A low surrogate without a high one before it.
      simp only [List.flatMap_cons, Glyph.chars, List.cons_append, List.append_assoc]
      refine exists_fault_of_escape ?_ fuel
      rw [escape_code h, if_pos hlow]
      exact ⟨_, rfl⟩
  | case5 digits high h hlow hhigh digits' low h' rest hlow' ih =>
      -- A pair of surrogates is two glyphs, but one character and one step.
      obtain ⟨fuel, rfl⟩ := Nat.exists_eq_add_one_of_ne_zero (Nat.ne_zero_of_lt hfuel)
      have hescape : escape ('u' :: (digits ++ ('\\' :: 'u' :: (digits'
          ++ (rest.flatMap Glyph.chars ++ '"' :: left)))))
          = .ok (ofSurrogates high low, rest.flatMap Glyph.chars ++ '"' :: left) := by
        rw [escape_code h, if_neg hlow, if_pos hhigh]
        simp only [bind_apply, pairMark_cons, escapedCode_append h'.1 h'.2, hlow', if_true,
          pure_apply]
      simp only [List.flatMap_cons, Glyph.chars, List.cons_append, List.append_assoc,
        characters_escape hescape]
      simp only [List.length_cons] at hfuel
      exact (ih (by omega)).map
  | case6 digits high h hlow hhigh digits' low h' rest hlow' =>
      -- A high surrogate with another code, or with something else, after it.
      rw [List.flatMap_cons, Glyph.chars, List.append_assoc]
      refine exists_fault_of_escape (exists_fault_of_high h hhigh ?_) fuel
      intro digits'' low'' h'' rest'' heq
      obtain ⟨hglyph, rfl⟩ := List.cons.inj heq
      cases hglyph
      simpa using hlow'
  | case7 digits high h rest hlow hhigh hnext =>
      rw [List.flatMap_cons, Glyph.chars, List.append_assoc]
      exact exists_fault_of_escape
        (exists_fault_of_high h hhigh fun _ _ _ _ heq => (hnext _ _ _ _ heq).elim) fuel
  | case8 digits code h rest hlow hhigh ih =>
      obtain ⟨fuel, rfl⟩ := Nat.exists_eq_add_one_of_ne_zero (Nat.ne_zero_of_lt hfuel)
      have hescape : escape ('u' :: (digits ++ (rest.flatMap Glyph.chars ++ '"' :: left)))
          = .ok (Char.ofNat code, rest.flatMap Glyph.chars ++ '"' :: left) := by
        rw [escape_code h, if_neg hlow, if_neg hhigh]
        rfl
      simp only [List.flatMap_cons, Glyph.chars, List.cons_append, List.append_assoc,
        characters_escape hescape]
      exact (ih (Nat.le_of_succ_le_succ hfuel)).map

/-- **A string is read as the characters that it spells**, if it spells any. -/
theorem Spelling.gives_string (spelling : Spelling) (left : List Char) :
    Gives (string (spelling.chars ++ left)) spelling.text? left := by
  have hlength : ∀ glyphs : List Glyph, glyphs.length ≤ (glyphs.flatMap Glyph.chars).length := by
    intro glyphs
    induction glyphs with
    | nil => exact Nat.le_refl _
    | cons glyph rest ih =>
        have hglyph : 1 ≤ glyph.chars.length := by cases glyph <;> simp [Glyph.chars]
        simp only [List.flatMap_cons, List.length_append, List.length_cons]
        omega
  have hchars : spelling.chars ++ left
      = '"' :: (spelling.glyphs.flatMap Glyph.chars ++ '"' :: left) := by
    simp [Spelling.chars]
  unfold string
  rw [hchars]
  change Gives ((do
    return String.ofList (← characters _) : Reader String) _) _ left
  refine Gives.map (Spelling.gives_characters spelling.glyphs ?_)
  have h := hlength spelling.glyphs
  simp only [List.drop_succ_cons, List.drop_zero, List.length_append]
  omega

end Retry.Json
