import Retry.Proofs.Json.Syntax

/-!
# Readers on tokens

`Reads reader tokens result` says what a reader does on a text that begins with some tokens: it
reads exactly them and gives the result, or fails if there is none, whatever blanks there are and
whatever comes after. Readers in a row read their tokens in a row (`Gives.bind`), so what a reader
gives is determined by the tokens alone.

A number goes on until its first character that does not belong to it. Hence what comes after must
begin with a mark (`Follows`), as it does everywhere in a JSON text.
-/

namespace Retry.Json

/-! ### Blanks and tokens -/

theorem Blanks.nil : Blanks [] := by simp [Blanks]

theorem Blanks.append {gap more : List Char} (hgap : Blanks gap) (hmore : Blanks more) :
    Blanks (gap ++ more) := by
  intro c hc
  rcases List.mem_append.mp hc with h | h
  · exact hgap c h
  · exact hmore c h

theorem Blanks.dropWhile {gap : List Char} (h : Blanks gap) (rest : List Char) :
    (gap ++ rest).dropWhile Reader.isBlank = rest.dropWhile Reader.isBlank :=
  List.dropWhile_append_of_pos h

namespace Token

/-- A token that is a single character and belongs to no value. -/
def IsMark : Token → Prop
  | .openArray | .closeArray | .openObject | .closeObject | .comma | .colon => True
  | _ => False

end Token

theorem Numeral.exists_chars (numeral : Numeral) :
    ∃ first rest, numeral.chars = first :: rest
      ∧ (numeral.negative = true ∧ first = '-'
        ∨ numeral.negative = false ∧ first.isDigit = true) := by
  obtain ⟨first, rest, hwhole⟩ := List.exists_cons_of_ne_nil numeral.whole_isDigits.ne_nil
  unfold chars
  cases hnegative : numeral.negative with
  | true => exact ⟨'-', _, rfl, Or.inl ⟨rfl, rfl⟩⟩
  | false =>
      refine ⟨first, _, by rw [hwhole]; rfl, Or.inr ⟨rfl, ?_⟩⟩
      exact numeral.whole_isDigits.isDigit first (by simp [hwhole])

theorem not_isBlank_of_isDigit {c : Char} (h : c.isDigit = true) : Reader.isBlank c = false := by
  unfold Reader.isBlank
  simp only [Bool.or_eq_false_iff, decide_eq_false_iff_not]
  refine ⟨⟨⟨?_, ?_⟩, ?_⟩, ?_⟩ <;> rintro rfl <;> exact absurd h (by decide)

theorem Token.exists_chars (token : Token) :
    ∃ first rest, token.chars = first :: rest ∧ Reader.isBlank first = false := by
  cases token with
  | number numeral =>
      obtain ⟨first, rest, hchars, hfirst⟩ := numeral.exists_chars
      refine ⟨first, rest, hchars, ?_⟩
      rcases hfirst with ⟨_, rfl⟩ | ⟨_, hdigit⟩
      · decide
      · exact not_isBlank_of_isDigit hdigit
  | text spelling => exact ⟨'"', _, rfl, by decide⟩
  | boolean value => cases value <;> exact ⟨_, _, rfl, by decide⟩
  | _ => exact ⟨_, _, rfl, by decide⟩

namespace Spaced

variable {token : Token} {tokens more : List Token} {gap rest text : List Char}

theorem blanks_append (hgap : Blanks gap) (h : Spaced tokens rest) :
    Spaced tokens (gap ++ rest) := by
  cases tokens with
  | nil => exact Blanks.append hgap h
  | cons token tokens =>
      obtain ⟨inner, left, hinner, hleft, rfl⟩ := h
      exact ⟨gap ++ inner, left, hgap.append hinner, hleft, (List.append_assoc ..).symm⟩

theorem append (h : Spaced tokens text) (hmore : Spaced more rest) :
    Spaced (tokens ++ more) (text ++ rest) := by
  induction tokens generalizing text with
  | nil => exact blanks_append h hmore
  | cons token tokens ih =>
      obtain ⟨gap, left, hgap, hleft, rfl⟩ := h
      exact ⟨gap, left ++ rest, hgap, ih hleft, by simp only [List.append_assoc]⟩

theorem cons (token : Token) (h : Spaced tokens rest) :
    Spaced (token :: tokens) (token.chars ++ rest) :=
  ⟨[], rest, Blanks.nil, h, rfl⟩

theorem singleton (token : Token) : Spaced [token] token.chars := by
  simpa using cons token (show Spaced [] [] from Blanks.nil)

theorem exists_of_append (h : Spaced (tokens ++ more) text) : ∃ left, Spaced more left := by
  induction tokens generalizing text with
  | nil => exact ⟨text, h⟩
  | cons token tokens ih =>
      obtain ⟨gap, left, _, hleft, _⟩ := h
      exact ih hleft

theorem length_le (h : Spaced tokens text) : tokens.length ≤ text.length := by
  induction tokens generalizing text with
  | nil => exact Nat.zero_le _
  | cons token tokens ih =>
      obtain ⟨gap, left, hgap, hleft, rfl⟩ := h
      obtain ⟨first, rest, hchars, _⟩ := token.exists_chars
      have hrest := ih hleft
      simp only [hchars, List.length_append, List.length_cons]
      omega

end Spaced

/-- What comes after a value: nothing, or a mark. -/
def Follows (after : List Token) : Prop := ∀ token ∈ after.head?, token.IsMark

theorem follows_nil : Follows [] := by simp [Follows]

theorem follows_cons (token : Token) (tokens : List Token) (h : token.IsMark) :
    Follows (token :: tokens) := by
  simpa [Follows] using h

/-- A text at which a number ends. -/
def Ends (left : List Char) : Prop :=
  ∀ c ∈ left.head?, c.isDigit = false ∧ c ≠ '.' ∧ c ≠ 'e' ∧ c ≠ 'E'

theorem ends_of_isBlank {c : Char} (h : Reader.isBlank c = true) (left : List Char) :
    Ends (c :: left) := by
  unfold Reader.isBlank at h
  simp only [Bool.or_eq_true, decide_eq_true_eq] at h
  intro d hd
  obtain rfl := Option.some_inj.mp hd
  rcases h with ((rfl | rfl) | rfl) | rfl <;> decide

theorem Spaced.ends {after : List Token} {left : List Char} (h : Spaced after left)
    (hafter : Follows after) : Ends left := by
  cases left with
  | nil => simp [Ends]
  | cons c left =>
      cases after with
      | nil => exact ends_of_isBlank (h c List.mem_cons_self) left
      | cons token after =>
          obtain ⟨gap, rest, hgap, _, htext⟩ := h
          cases gap with
          | cons d gap =>
              obtain ⟨rfl, rfl⟩ := List.cons.inj htext
              exact ends_of_isBlank (hgap c List.mem_cons_self) _
          | nil =>
              have hmark : token.IsMark := hafter token rfl
              cases token <;> first
                | exact hmark.elim
                | (obtain ⟨rfl, rfl⟩ := List.cons.inj htext
                   intro d hd
                   obtain rfl := Option.some_inj.mp hd
                   decide)

/-! ### Readers in a row -/

namespace Reader

variable {α β : Type} {rest : List Char}

theorem bind_apply (reader : Reader α) (next : α → Reader β) (rest : List Char) :
    (reader >>= next) rest = match reader rest with
      | .ok (value, left) => next value left
      | .error fault => .error fault := by
  change StateT.bind reader next rest = _
  unfold StateT.bind
  cases reader rest <;> rfl

theorem pure_apply (value : α) (rest : List Char) :
    (pure value : Reader α) rest = .ok (value, rest) := rfl

theorem peek_apply (rest : List Char) : peek rest = .ok (rest.head?, rest) := rfl

theorem skip_cons (c : Char) (rest : List Char) : skip (c :: rest) = .ok ((), rest) := rfl

theorem fail_apply (cause : Cause) (rest : List Char) :
    (fail cause : Reader α) rest
      = .error { cause := cause, rest := rest, ahead := 0, placed := true } := rfl

theorem failAhead_apply (cause : Cause) (rest : List Char) :
    (failAhead cause : Reader α) rest
      = .error { cause := cause, rest := rest, ahead := 1, placed := true } := rfl

end Reader

/-- The outcome of a reader is a result with some text left, or a fault if there is no result. -/
def Gives {α : Type} (outcome : Except Fault (α × List Char)) (result : Option α)
    (left : List Char) : Prop :=
  match result with
  | some value => outcome = .ok (value, left)
  | none => ∃ fault, outcome = .error fault

namespace Gives

variable {α β : Type} {reader : Reader α} {next : α → Reader β} {result : Option α}
  {following : α → Option β} {rest left last : List Char}

theorem bind (hfirst : Gives (reader rest) result left)
    (hnext : ∀ value, result = some value → Gives (next value left) (following value) last) :
    Gives ((reader >>= next) rest) (result.bind following) last := by
  rw [Reader.bind_apply]
  cases result with
  | none =>
      obtain ⟨fault, hfault⟩ := hfirst
      rw [hfault]
      exact ⟨fault, rfl⟩
  | some value =>
      rw [show reader rest = .ok (value, left) from hfirst]
      exact hnext value rfl

theorem bind_none (h : Gives (reader rest) none left) :
    Gives ((reader >>= next) rest) none last := by
  obtain ⟨fault, hfault⟩ := h
  rw [Reader.bind_apply, hfault]
  exact ⟨fault, rfl⟩

theorem map {f : α → β} (h : Gives (reader rest) result left) :
    Gives ((reader >>= fun value => pure (f value)) rest) (result.map f) left := by
  rw [Option.map_eq_bind]
  exact h.bind fun value _ => rfl

/-- What a result is checked for afterwards. -/
theorem check {f : α → Except Cause β} (h : Gives (reader rest) result left) :
    Gives ((reader >>= fun value => (Reader.ofExcept (f value)).placed) rest)
      (result.bind fun value => (f value).toOption) left := by
  refine h.bind fun value _ => ?_
  cases hvalue : f value with
  | ok other => rfl
  | error cause => exact ⟨_, rfl⟩

end Gives

/-- A reader reads some tokens and gives a result, whatever blanks and whatever tokens follow. -/
def Reads {α : Type} (reader : Reader α) (tokens : List Token) (result : Option α) : Prop :=
  ∀ after rest, Follows after → Spaced (tokens ++ after) rest →
    ∃ left, Spaced after left ∧ Gives (reader rest) result left

namespace Reads

variable {α β : Type} {reader : Reader α} {next : α → Reader β} {tokens more : List Token}
  {result : Option α} {following : α → Option β}

theorem map {f : α → β} (h : Reads reader tokens result) :
    Reads (reader >>= fun value => pure (f value)) tokens (result.map f) := by
  intro after rest hafter hrest
  obtain ⟨left, hleft, hgives⟩ := h after rest hafter hrest
  exact ⟨left, hleft, hgives.map⟩

end Reads

/-! ### The next token -/

section Peek

variable {α : Type} {token : Token} {tokens : List Token} {rest : List Char}

theorem Spaced.peekToken (h : Spaced (token :: tokens) rest) :
    ∃ left, Spaced tokens left
      ∧ Reader.peekToken rest = .ok (token.chars.head?, token.chars ++ left) := by
  obtain ⟨gap, left, hgap, hleft, rfl⟩ := h
  obtain ⟨first, inner, hchars, hfirst⟩ := token.exists_chars
  refine ⟨left, hleft, ?_⟩
  unfold Reader.peekToken
  rw [hgap.dropWhile, hchars, List.cons_append, List.dropWhile_cons_of_neg (by simp [hfirst])]
  rfl

theorem Blanks.peekToken (h : Blanks rest) : Reader.peekToken rest = .ok (none, []) := by
  have hrest := h.dropWhile []
  rw [List.append_nil] at hrest
  unfold Reader.peekToken
  rw [hrest]
  rfl

end Peek

end Retry.Json
