import Mathlib
import ScriptFlow.Json.Reader
import ScriptFlow.Json.Writer

/-!
# Reading back what was written

The reader walks a text once, and what stands behind a value does not change how the value is read.

* `Json.numberAt_append` — a number is read whatever stands behind it.
* `Json.Spells` — the characters of a text that is read as a value, inside other values and on its own; `Json.spells_int`, `Json.spells_str`,
  `Json.spells_list`, `Json.spells_dict` — the texts that spell values of each kind.
* `Json.Spells.read_eq` — **a text that spells a value is read as it**.
-/

namespace ScriptFlow

namespace Json

/-! ## Strings -/

theorem hexValue?_hexDigit (n : Nat) : hexValue? (Text.hexDigit n) = some (n % 16) := by
  have hdigits : ∀ m < 16, hexValue? (Nat.digitChar m) = some m := by decide
  exact hdigits _ (Nat.mod_lt _ (by decide))

theorem hex_four (n : Nat) : Text.hex 4 n =
    [Text.hexDigit (n / 16 / 16 / 16), Text.hexDigit (n / 16 / 16), Text.hexDigit (n / 16), Text.hexDigit n] := rfl

/-- Four digits are read as the number that they were written for. -/
theorem hex4?_hex {n : Nat} (h : n < 0x10000) (rest : List Char) : hex4? (Text.hex 4 n ++ rest) = some n := by
  simp only [hex_four, List.cons_append, List.nil_append, hex4?, hexValue?_hexDigit, Option.bind_eq_bind, Option.bind_some, Option.pure_def,
    Option.some.injEq]
  omega

theorem drop_hex (n : Nat) (rest : List Char) : (Text.hex 4 n ++ rest).drop 4 = rest := rfl

/-- A numeric escape that is no half of a surrogate pair. -/
theorem escapeAt_unit {n : Nat} (h : n < 0x10000) (hn : isHighSurrogate n = false) (p : Nat) {rest : List Char} (hr : rest ≠ []) :
    escapeAt ⟨p, 'u' :: (Text.hex 4 n ++ rest)⟩ 'u' = .ok (n, ⟨p + 5, rest⟩) := by
  simp [escapeAt, Cursor.advance, drop_hex, hex4?_hex h, hn, hr]

/-- The two escapes of a surrogate pair. -/
theorem escapeAt_pair {n : Nat} (h : 0x10000 ≤ n) (hn : n < 0x110000) (p : Nat) {rest : List Char} (hr : rest ≠ []) :
    escapeAt ⟨p, 'u' :: (Text.hex 4 (0xD800 + (n - 0x10000) / 0x400) ++ '\\' :: 'u' ::
      (Text.hex 4 (0xDC00 + (n - 0x10000) % 0x400) ++ rest))⟩ 'u' = .ok (n, ⟨p + 11, rest⟩) := by
  have hhigh : isHighSurrogate (0xD800 + (n - 0x10000) / 0x400) = true := by
    simp [isHighSurrogate]
    omega
  have hlow : isLowSurrogate (0xDC00 + (n - 0x10000) % 0x400) = true := by
    simp [isLowSurrogate]
    omega
  simp only [escapeAt, Cursor.advance, drop_hex, List.drop_succ_cons, List.drop_zero, Cursor.pass?, hhigh, hlow,
    hex4?_hex (show 0xD800 + (n - 0x10000) / 0x400 < 0x10000 by omega), hex4?_hex (show 0xDC00 + (n - 0x10000) % 0x400 < 0x10000 by omega)]
  simp [hr]
  omega

/-- An escape is read as its code point. -/
theorem stringFrom_escape {letter : Char} {n q : Nat} {cs rest : List Char} {p : Nat} (h : escapeAt ⟨p + 1, letter :: cs⟩ letter = .ok (n, ⟨q, rest⟩))
    (start fuel : Nat) (acc : List Nat) :
    stringFrom start (fuel + 1) ⟨p, '\\' :: letter :: cs⟩ acc = stringFrom start fuel ⟨q, rest⟩ (n :: acc) := by
  have hstep : stringFrom start (fuel + 1) ⟨p, '\\' :: letter :: cs⟩ acc =
      (escapeAt ⟨p + 1, letter :: cs⟩ letter >>= fun x => stringFrom start fuel x.2 (x.1 :: acc)) := rfl
  rw [hstep, h]
  rfl

theorem escapeAt_letter {letter : Char} {n : Nat} (h : simpleEscape? letter = some n) (hu : letter ≠ 'u') (p : Nat) (rest : List Char) :
    escapeAt ⟨p, letter :: rest⟩ letter = .ok (n, ⟨p + 1, rest⟩) := by
  simp [escapeAt, hu, h, Cursor.advance]

/-- A character that stands for itself. -/
theorem stringFrom_plain {c : Char} (hq : c ≠ '"') (hb : c ≠ '\\') (h : 0x1F < c.toNat) (start fuel p : Nat) (rest : List Char) (acc : List Nat) :
    stringFrom start (fuel + 1) ⟨p, c :: rest⟩ acc = stringFrom start fuel ⟨p + 1, rest⟩ (c.toNat :: acc) := by
  rw [stringFrom]
  split <;> simp_all [Cursor.advance]

/-- An escaped character is read as its code point. -/
theorem stringFrom_escapeCode (start fuel p : Nat) (c : Char) {rest : List Char} (hr : rest ≠ []) (acc : List Nat) :
    stringFrom start (fuel + 1) ⟨p, escapeCode c.toNat ++ rest⟩ acc =
      stringFrom start fuel ⟨p + (escapeCode c.toNat).length, rest⟩ (c.toNat :: acc) := by
  have hvalid : c.toNat.isValidChar := c.valid
  have hhigh : isHighSurrogate c.toNat = false := by
    simp [isHighSurrogate]
    rcases hvalid with h | h <;> omega
  unfold escapeCode
  iterate 7
    split
    · rename_i h
      rw [eq_of_beq h]
      exact stringFrom_escape (escapeAt_letter rfl (by decide) _ _) ..
  split
  · rename_i hq hb _ _ _ _ _ h
    rw [Char.ofNat_toNat]
    simp only [Bool.and_eq_true, decide_eq_true_eq] at h
    refine stringFrom_plain ?_ ?_ (by omega) ..
    · rintro rfl
      exact hq rfl
    · rintro rfl
      exact hb rfl
  split
  · rename_i h
    exact stringFrom_escape (escapeAt_unit h hhigh _ hr) ..
  · rename_i h
    have hlt : c.toNat < 0x110000 := by
      rcases hvalid with h | h <;> omega
    simp only [unitEscape, List.cons_append, List.append_assoc]
    exact stringFrom_escape (escapeAt_pair (by omega) hlt _ hr) ..

theorem stringFrom_chars (start p : Nat) (cs : List Char) (rest : List Char) {fuel : Nat} (h : cs.length < fuel) (acc : List Nat) :
    stringFrom start fuel ⟨p, cs.flatMap (fun c => escapeCode c.toNat) ++ '"' :: rest⟩ acc =
      .ok (acc.reverse ++ cs.map Char.toNat, ⟨p + (cs.flatMap fun c => escapeCode c.toNat).length + 1, rest⟩) := by
  induction cs generalizing fuel p acc with
  | nil =>
    obtain _ | fuel := fuel
    · cases h
    · simp [stringFrom, Cursor.advance]
  | cons c cs ih =>
    obtain _ | fuel := fuel
    · cases h
    · rw [List.flatMap_cons, List.append_assoc, stringFrom_escapeCode _ _ _ _ (by simp), ih _ (Nat.lt_of_succ_lt_succ h)]
      simp [Nat.add_assoc]

/-- A text is read from its string. -/
theorem stringAt_stringText (s : String) (p : Nat) (rest : List Char) {fuel : Nat} (h : s.toList.length < fuel) :
    stringAt fuel ⟨p, (stringText s).toList ++ rest⟩ = .ok (.str s, ⟨p + (stringText s).toList.length, rest⟩) := by
  have hvalid : ∀ cs : List Char, textOf (cs.map Char.toNat) = .str (String.ofList cs) := fun cs => by
    have hall : (cs.map Char.toNat).all (fun n => n.isValidChar) = true := by
      simpa using fun c _ => c.valid
    rw [textOf, if_pos hall, List.map_map]
    congr 2
    exact (List.map_congr_left fun c _ => Char.ofNat_toNat c).trans (List.map_id _)
  simp only [stringText, String.toList_ofList, List.cons_append, List.append_assoc, List.nil_append, stringAt, Cursor.advance, List.drop_succ_cons,
    List.drop_zero]
  rw [stringFrom_chars _ _ _ _ h]
  simp [hvalid]
  omega

/-! ## Numbers -/

/-- What may stand behind a value inside others: nothing at all, a mark that no value goes on with, or the end of a line. -/
def Closes (rest : List Char) : Prop := ∀ c ∈ rest.head?, c = ',' ∨ c = ']' ∨ c = '\x7d' ∨ c = '\n'

theorem Closes.not_digit {rest : List Char} (h : Closes rest) : ∀ c ∈ rest.head?, c.isDigit = false := fun c hc => by
  obtain rfl | rfl | rfl | rfl := h c hc <;> rfl

theorem Closes.cases {rest : List Char} (h : Closes rest) :
    rest = [] ∨ ∃ c tail, rest = c :: tail ∧ (c = ',' ∨ c = ']' ∨ c = '\x7d' ∨ c = '\n') := by
  cases rest with
  | nil => exact .inl rfl
  | cons c tail => exact .inr ⟨c, tail, rfl, h c rfl⟩

theorem takeWhile_append_of_closed {f : Char → Bool} {rest : List Char} (h : ∀ c ∈ rest.head?, f c = false) (cs : List Char) :
    (cs ++ rest).takeWhile f = cs.takeWhile f := by
  have hrest : rest.takeWhile f = [] := by
    cases rest with
    | nil => rfl
    | cons c rest => simp [h c rfl]
  induction cs with
  | nil => exact hrest
  | cons c cs ih => simp [List.takeWhile_cons, ih]

theorem wholeDigits_append {rest : List Char} (h : ∀ c ∈ rest.head?, c.isDigit = false) (cs : List Char) :
    wholeDigits (cs ++ rest) = wholeDigits cs := by
  have htake := takeWhile_append_of_closed h cs
  cases cs with
  | nil =>
    unfold wholeDigits
    split
    · next heq =>
      rw [List.nil_append] at heq
      exact absurd (h '0' (by rw [heq]; rfl)) (by decide)
    · exact htake
  | cons c cs =>
    by_cases hc : c = '0'
    · subst hc
      rfl
    · simpa [wholeDigits, hc] using htake

section Closed

variable {rest : List Char} (h : Closes rest)

include h

theorem fractionDigits_append (cs : List Char) : fractionDigits (cs ++ rest) = fractionDigits cs := by
  cases cs with
  | nil => obtain rfl | ⟨c, tail, rfl, rfl | rfl | rfl | rfl⟩ := h.cases <;> rfl
  | cons c cs =>
    by_cases hc : c = '.'
    · subst hc
      exact takeWhile_append_of_closed h.not_digit cs
    · simp [fractionDigits, hc]

theorem spanDigits_append (cs : List Char) : spanDigits (cs ++ rest) = ((spanDigits cs).1, (spanDigits cs).2 ++ rest) := by
  have hdrop : (cs ++ rest).dropWhile Char.isDigit = cs.dropWhile Char.isDigit ++ rest := by
    induction cs with
    | nil =>
      cases rest with
      | nil => rfl
      | cons c rest => simp [h.not_digit c rfl]
    | cons c cs ih =>
      simp only [List.cons_append, List.dropWhile_cons]
      split <;> simp_all
  simp only [spanDigits, takeWhile_append_of_closed h.not_digit, hdrop]

theorem readExponent_append (cs : List Char) : readExponent (cs ++ rest) = ((readExponent cs).1, (readExponent cs).2 ++ rest) := by
  cases cs with
  | nil => obtain rfl | ⟨c, tail, rfl, rfl | rfl | rfl | rfl⟩ := h.cases <;> rfl
  | cons c cs =>
    have hsign : spanSign (cs ++ rest) = ((spanSign cs).1, (spanSign cs).2 ++ rest) := by
      cases cs with
      | nil => obtain rfl | ⟨c, tail, rfl, rfl | rfl | rfl | rfl⟩ := h.cases <;> rfl
      | cons c cs =>
        by_cases hm : c = '-'
        · subst hm; rfl
        · by_cases hp : c = '+'
          · subst hp; rfl
          · simp [spanSign, hm, hp]
    simp only [List.cons_append, readExponent, hsign, spanDigits_append h]
    split
    · split <;> rfl
    · rfl

end Closed

theorem length_wholeDigits_le (cs : List Char) : (wholeDigits cs).length ≤ cs.length := by
  unfold wholeDigits
  split
  · simp
  · exact (List.takeWhile_sublist _).length_le

/-- How many characters the fraction takes. -/
def fractionWidth (cs : List Char) : Nat := if (fractionDigits cs).isEmpty then 0 else (fractionDigits cs).length + 1

theorem fractionWidth_le (cs : List Char) : fractionWidth cs ≤ cs.length := by
  unfold fractionWidth fractionDigits
  split
  · split
    · simp
    · simpa using (List.takeWhile_sublist Char.isDigit).length_le
  · simp

theorem length_readExponent_le (cs : List Char) : (readExponent cs).2.length ≤ cs.length := by
  have hsign : ∀ cs : List Char, (spanSign cs).2.length ≤ cs.length := fun cs => by
    unfold spanSign
    split <;> simp
  cases cs with
  | nil => simp [readExponent]
  | cons c cs =>
    simp only [readExponent]
    split
    · split
      · simp
      · exact ((List.dropWhile_sublist _).length_le.trans (hsign cs)).trans (by simp)
    · simp

/-- A number in parts, with the characters that its fraction and its exponent take. -/
structure NumberParts where
  negative : Bool
  whole : List Char
  fraction : List Char
  fractionWidth : Nat
  exponent : Int
  exponentWidth : Nat

namespace NumberParts

/-- The characters of a number without its sign. -/
def body (cs : List Char) : List Char := if cs.head? == some '-' then cs.drop 1 else cs

/-- The characters of a number behind its whole part. -/
def behindWhole (cs : List Char) : List Char := (body cs).drop (wholeDigits (body cs)).length

/-- The characters of a number behind its fraction. -/
def behindFraction (cs : List Char) : List Char := (behindWhole cs).drop (Json.fractionWidth (behindWhole cs))

/-- The parts of the number that characters start with. -/
def of (cs : List Char) : NumberParts where
  negative := cs.head? == some '-'
  whole := wholeDigits (body cs)
  fraction := fractionDigits (behindWhole cs)
  fractionWidth := Json.fractionWidth (behindWhole cs)
  exponent := (readExponent (behindFraction cs)).1
  exponentWidth := (behindFraction cs).length - (readExponent (behindFraction cs)).2.length

def width (n : NumberParts) : Nat := (if n.negative then 1 else 0) + n.whole.length + n.fractionWidth + n.exponentWidth

def value (n : NumberParts) : Except ReadError Data :=
  if n.fractionWidth == 0 && n.exponentWidth == 0 then
    if n.whole.length > 4300 then .error (.digits n.whole.length) else .ok (.int (Binary.signOf n.negative * (natOfDigits n.whole : Int)))
  else .ok (.float (withSign n.negative (Numeral.toFloat ⟨natOfDigits (n.whole ++ n.fraction), n.exponent - n.fraction.length⟩)))

theorem body_append {cs : List Char} (hne : cs ≠ []) (rest : List Char) : body (cs ++ rest) = body cs ++ rest := by
  unfold body
  rw [List.head?_append_of_ne_nil _ hne]
  split
  · exact List.drop_append_of_le_length (List.length_pos_of_ne_nil hne)
  · rfl

theorem length_body (cs : List Char) : (if cs.head? == some '-' then 1 else 0) + (body cs).length = cs.length := by
  unfold body
  cases cs with
  | nil => rfl
  | cons c cs =>
    split
    · simp [Nat.add_comm]
    · simp

theorem of_append {cs rest : List Char} (hr : Closes rest) (hne : cs ≠ []) : of (cs ++ rest) = of cs := by
  have hwhole : behindWhole (cs ++ rest) = behindWhole cs ++ rest := by
    rw [behindWhole, body_append hne, wholeDigits_append hr.not_digit, List.drop_append_of_le_length (length_wholeDigits_le _)]
    rfl
  have hwidth : Json.fractionWidth (behindWhole cs ++ rest) = Json.fractionWidth (behindWhole cs) := by
    rw [Json.fractionWidth, fractionDigits_append hr]
    rfl
  have hfraction : behindFraction (cs ++ rest) = behindFraction cs ++ rest := by
    rw [behindFraction, hwhole, hwidth, List.drop_append_of_le_length (fractionWidth_le _)]
    rfl
  have hexponent : (behindFraction cs ++ rest).length - (readExponent (behindFraction cs ++ rest)).2.length =
      (behindFraction cs).length - (readExponent (behindFraction cs)).2.length := by
    rw [readExponent_append hr, List.length_append, List.length_append, Nat.add_sub_add_right]
  unfold of
  rw [hwhole, hfraction, hexponent, hwidth, body_append hne, wholeDigits_append hr.not_digit, fractionDigits_append hr, readExponent_append hr,
    List.head?_append_of_ne_nil _ hne]

theorem width_le (cs : List Char) : (of cs).width ≤ cs.length := by
  have hbody := length_body cs
  have hwhole := length_wholeDigits_le (body cs)
  have hfraction := fractionWidth_le (behindWhole cs)
  have hexponent := length_readExponent_le (behindFraction cs)
  have hafter : (behindWhole cs).length = (body cs).length - (wholeDigits (body cs)).length := List.length_drop
  have hrest : (behindFraction cs).length = (behindWhole cs).length - Json.fractionWidth (behindWhole cs) := List.length_drop
  have hwidth : (of cs).width = (if cs.head? == some '-' then 1 else 0) + (wholeDigits (body cs)).length + Json.fractionWidth (behindWhole cs) +
      ((behindFraction cs).length - (readExponent (behindFraction cs)).2.length) := rfl
  omega

end NumberParts

/-- A number is read by its parts. -/
theorem numberAt_eq (c : Cursor) : numberAt c = if (NumberParts.of c.rest).whole.isEmpty then fail c .value
    else (NumberParts.of c.rest).value.map fun d => (d, c.advance (NumberParts.of c.rest).width) := by
  rw [numberAt]
  refine if_congr Iff.rfl rfl ?_
  rw [NumberParts.value, apply_ite (Except.map _), apply_ite (Except.map _)]
  rfl

/-- A number is read whatever stands behind it. -/
theorem numberAt_append {cs rest : List Char} (hr : Closes rest) {d : Data} {c : Cursor} (h : numberAt ⟨0, cs⟩ = .ok (d, c)) (p : Nat) :
    numberAt ⟨p, cs ++ rest⟩ = .ok (d, ⟨p + c.position, c.rest ++ rest⟩) := by
  have hne : cs ≠ [] := by
    rintro rfl
    cases h
  rw [numberAt_eq] at h ⊢
  rw [NumberParts.of_append hr hne]
  split at h
  · cases h
  · next hwhole =>
    rw [if_neg hwhole]
    cases hvalue : (NumberParts.of cs).value with
    | error e =>
      rw [hvalue] at h
      cases h
    | ok d' =>
      rw [hvalue] at h
      cases h
      rw [Except.map, Cursor.advance, Cursor.advance, List.drop_append_of_le_length (NumberParts.width_le cs), Nat.zero_add]

/-- A number starts with a digit, or with a minus before one. -/
theorem numberAt_opens {cs : List Char} {d : Data} {c : Cursor} (h : numberAt ⟨0, cs⟩ = .ok (d, c)) : ∃ a tail, cs = a :: tail ∧
    (a.isDigit = true ∨ a = '-' ∧ ∃ b tail', tail = b :: tail' ∧ b.isDigit = true) := by
  have hwhole : ∀ body : List Char, wholeDigits body ≠ [] → ∃ a tail, body = a :: tail ∧ a.isDigit = true := fun body hne => by
    obtain _ | ⟨a, tail⟩ := body
    · exact absurd rfl hne
    · refine ⟨a, tail, rfl, ?_⟩
      by_cases ha : a = '0'
      · subst ha
        rfl
      · by_contra hdigit
        exact hne (by simp [wholeDigits, ha, hdigit])
  have hbody : wholeDigits (if cs.head? == some '-' then cs.drop 1 else cs) ≠ [] := fun hnil => by
    rw [numberAt, hnil] at h
    cases h
  obtain ⟨a, tail, heq, ha⟩ := hwhole _ hbody
  split at heq
  · rename_i hminus
    obtain _ | ⟨m, rest⟩ := cs
    · cases heq
    · exact ⟨m, rest, rfl, Or.inr ⟨by simpa using hminus, a, tail, heq, ha⟩⟩
  · exact ⟨a, tail, heq, Or.inl ha⟩

/-- The characters of a text that is read as a value whatever stands behind it. -/
structure Spells (cs : List Char) (d : Data) : Prop where
  reads {fuel : Nat} (h : 2 * cs.length ≤ fuel) (p : Nat) {rest : List Char} (hr : Closes rest) :
    valueAt fuel ⟨p, cs ++ rest⟩ = .ok (d, ⟨p + cs.length, rest⟩)
  opens : ∃ c tail, cs = c :: tail ∧ Cursor.isSpace c = false ∧ c ≠ ']' ∧ c ≠ '\ufeff'

theorem ne_of_isDigit {x c : Char} (hx : x.isDigit = false) (hc : c.isDigit = true) : x ≠ c := by
  rintro rfl
  rw [hx] at hc
  cases hc

theorem pass?_of_ne {x a : Char} (h : x ≠ a) {w : String} {tail : List Char} (hw : w.toList = x :: tail) (p : Nat) (cs : List Char) :
    Cursor.pass? ⟨p, a :: cs⟩ w = none := by
  rw [Cursor.pass?, hw, if_neg]
  simp [h]

/-- No word starts like a number. -/
theorem wordAt?_eq_none {a : Char} {cs : List Char} (h : a.isDigit = true ∨ a = '-' ∧ ∃ b cs', cs = b :: cs' ∧ b.isDigit = true) (p : Nat) :
    wordAt? ⟨p, a :: cs⟩ = none := by
  have hword (x : Char) (hx : x.isDigit = false) (hm : x ≠ '-') : x ≠ a := by
    obtain ha | ⟨rfl, -⟩ := h
    · exact ne_of_isDigit hx ha
    · exact hm
  have hinfinity : Cursor.pass? ⟨p, a :: cs⟩ "-Infinity" = none := by
    obtain ha | ⟨rfl, b, cs', rfl, hb⟩ := h
    · exact pass?_of_ne (ne_of_isDigit (x := '-') rfl ha) rfl ..
    · have hb := ne_of_isDigit (x := 'I') rfl hb
      rw [Cursor.pass?, if_neg]
      have hprefix : ('-' :: 'I' :: "nfinity".toList).isPrefixOf ('-' :: b :: cs') = false := by
        simp [List.isPrefixOf_cons_cons, hb]
      exact ne_true_of_eq_false hprefix
  simp only [wordAt?, words, List.findSome?_cons, List.findSome?_nil, hinfinity, pass?_of_ne (hword 'n' rfl (by decide)) (w := "null") rfl,
    pass?_of_ne (hword 't' rfl (by decide)) (w := "true") rfl, pass?_of_ne (hword 'f' rfl (by decide)) (w := "false") rfl,
    pass?_of_ne (hword 'N' rfl (by decide)) (w := "NaN") rfl, pass?_of_ne (hword 'I' rfl (by decide)) (w := "Infinity") rfl, Option.map_none]

theorem spells_number {cs : List Char} {d : Data} (h : numberAt ⟨0, cs⟩ = .ok (d, ⟨cs.length, []⟩)) : Spells cs d := by
  obtain ⟨a, tail, hcs, ha⟩ := numberAt_opens h
  have hne (x : Char) (hx : x.isDigit = false) (hm : x ≠ '-') : x ≠ a := by
    obtain ha | ⟨rfl, -⟩ := ha
    · exact ne_of_isDigit hx ha
    · exact hm
  have hword (p : Nat) (rest : List Char) : wordAt? ⟨p, cs ++ rest⟩ = none := by
    subst hcs
    refine wordAt?_eq_none (ha.imp_right fun ⟨hm, b, tail', heq, hb⟩ => ?_) p
    exact ⟨hm, b, tail' ++ rest, by rw [heq]; rfl, hb⟩
  refine ⟨fun {fuel} hfuel p {rest} hr => ?_, a, tail, hcs, ?_, (hne ']' rfl (by decide)).symm, (hne '\ufeff' rfl (by decide)).symm⟩
  · obtain _ | fuel := fuel
    · simp [hcs] at hfuel
    · have hstep : valueAt (fuel + 1) ⟨p, cs ++ rest⟩ = numberAt ⟨p, cs ++ rest⟩ := by
        have hquote := hne '"' rfl (by decide)
        have hbrace := hne '\x7b' rfl (by decide)
        have hbracket := hne '[' rfl (by decide)
        rw [valueAt]
        split
        · simp_all
        · simp_all
        · simp_all
        · rw [hword]
      rw [hstep, numberAt_append hr h]
      rfl
  · by_contra hs
    simp only [Cursor.isSpace, Bool.not_eq_false, Bool.or_eq_true, beq_iff_eq] at hs
    obtain ((rfl | rfl) | rfl) | rfl := hs
    · exact hne ' ' rfl (by decide) rfl
    · exact hne '\t' rfl (by decide) rfl
    · exact hne '\n' rfl (by decide) rfl
    · exact hne '\r' rfl (by decide) rfl

/-! ## Whole numbers -/

theorem natOfDigits_toDigits (n : Nat) : natOfDigits (Nat.toDigits 10 n) = n := by
  have h := Nat.ofDigitChars_ten_toDigits (n := n)
  rwa [Nat.ofDigitChars_eq_foldl] at h

theorem toDigits_digit {n : Nat} {c : Char} (h : c ∈ Nat.toDigits 10 n) : c.isDigit = true :=
  Nat.isDigit_of_mem_toDigits (by decide) (by decide) h

/-- Only zero starts with a zero. -/
theorem toDigits_head (n : Nat) : (Nat.toDigits 10 n).head? = some '0' → n = 0 := by
  induction n using Nat.strong_induction_on with
  | _ n ih =>
    by_cases h : n < 10
    · rw [Nat.toDigits_of_lt_base h]
      have hdigits : ∀ m < 10, some (Nat.digitChar m) = some '0' → m = 0 := by decide
      exact hdigits n h
    · rw [Nat.toDigits_of_base_le (by decide) (by omega), List.head?_append_of_ne_nil _ Nat.toDigits_ne_nil]
      intro hhead
      have := ih (n / 10) (by omega) hhead
      omega

theorem wholeDigits_toDigits (n : Nat) : wholeDigits (Nat.toDigits 10 n) = Nat.toDigits 10 n := by
  have htake : (Nat.toDigits 10 n).takeWhile Char.isDigit = Nat.toDigits 10 n := List.takeWhile_eq_self_iff.mpr fun c => toDigits_digit
  unfold wholeDigits
  split
  · rename_i rest heq
    have hzero := toDigits_head n (by rw [heq]; rfl)
    subst hzero
    rfl
  · exact htake

theorem length_toDigits_le {n k : Nat} (h : n < Nat.pow 10 k) (hk : 0 < k) : (Nat.toDigits 10 n).length ≤ k :=
  (Nat.length_toDigits_le_iff (by decide) hk).mpr h

/-- A run of digits with or without a minus is a whole number. -/
theorem numberAt_digits {ds : List Char} (hds : wholeDigits ds = ds) (hdigits : ∀ c ∈ ds, c.isDigit = true) (hne : ds ≠ [])
    (hshort : ds.length ≤ 4300) :
    numberAt ⟨0, ds⟩ = .ok (.int (natOfDigits ds), ⟨ds.length, []⟩) ∧
      numberAt ⟨0, '-' :: ds⟩ = .ok (.int (-natOfDigits ds), ⟨ds.length + 1, []⟩) := by
  obtain ⟨a, tail, rfl⟩ := List.exists_cons_of_ne_nil hne
  have hminus : ¬ a = '-' := (ne_of_isDigit (x := '-') rfl (hdigits a (.head _))).symm
  have hlong : ¬ 4300 ≤ tail.length := not_le.mpr (Nat.lt_of_succ_le hshort)
  constructor
  · simp [numberAt, List.head?_cons, hminus, hds, fractionDigits, readExponent, Binary.signOf, hlong, Cursor.advance]
  · simp [numberAt, List.head?_cons, hds, fractionDigits, readExponent, Binary.signOf, hlong, Cursor.advance, Nat.add_comm 1]

theorem spells_int {n : Int} (h : n.natAbs < Nat.pow 10 4300) : Spells (toString n).toList (.int n) := by
  have hshort := length_toDigits_le h (by decide)
  obtain ⟨hpos, hneg⟩ := numberAt_digits (wholeDigits_toDigits n.natAbs) (fun c => toDigits_digit) Nat.toDigits_ne_nil hshort
  rw [natOfDigits_toDigits] at hpos hneg
  cases n with
  | ofNat m =>
    have htext : (toString (Int.ofNat m)).toList = Nat.toDigits 10 m := by
      rw [show toString (Int.ofNat m) = m.repr from rfl, Nat.repr_eq_ofList_toDigits, String.toList_ofList]
    rw [htext]
    exact spells_number hpos
  | negSucc m =>
    have htext : (toString (Int.negSucc m)).toList = '-' :: Nat.toDigits 10 (m + 1) := by
      rw [show toString (Int.negSucc m) = "-" ++ (m + 1).repr from rfl, Nat.repr_eq_ofList_toDigits]
      simp
    rw [htext]
    exact spells_number hneg

/-! ## Texts and words -/

/-- The string of a text is longer than the text. -/
theorem length_lt_stringText (s : String) : s.toList.length < (stringText s).toList.length := by
  have hescape (n : Nat) : 1 ≤ (escapeCode n).length := by
    unfold escapeCode
    repeat' split
    all_goals simp [unitEscape]
  have hchars (cs : List Char) : cs.length ≤ (cs.flatMap fun c => escapeCode c.toNat).length := by
    induction cs with
    | nil => exact Nat.le_refl _
    | cons c cs ih =>
      have := hescape c.toNat
      simp only [List.flatMap_cons, List.length_append, List.length_cons]
      omega
  have := hchars s.toList
  simp only [stringText, String.toList_ofList, List.length_cons, List.length_append]
  omega

theorem spells_str (s : String) : Spells (stringText s).toList (.str s) where
  reads {fuel} hfuel p {rest} _ := by
    have hquote : ∃ tail, (stringText s).toList = '"' :: tail := ⟨_, by rw [stringText, String.toList_ofList]⟩
    have hlength := length_lt_stringText s
    obtain _ | fuel := fuel
    · omega
    · have hstep : valueAt (fuel + 1) ⟨p, (stringText s).toList ++ rest⟩ = stringAt fuel ⟨p, (stringText s).toList ++ rest⟩ := by
        obtain ⟨tail, htail⟩ := hquote
        rw [htail]
        rfl
      rw [hstep, stringAt_stringText s p rest (by omega)]
  opens := ⟨'"', _, by rw [stringText, String.toList_ofList], rfl, by decide, by decide⟩

theorem spells_null : Spells "null".toList .null where
  reads {fuel} hfuel p {rest} _ := by
    obtain _ | fuel := fuel
    · simp at hfuel
    · rfl
  opens := ⟨'n', _, rfl, rfl, by decide, by decide⟩

theorem spells_bool (b : Bool) : Spells (if b then "true" else "false").toList (.bool b) where
  reads {fuel} hfuel p {rest} _ := by
    obtain _ | fuel := fuel
    · cases b <;> simp at hfuel
    · cases b <;> rfl
  opens := by
    cases b
    · exact ⟨'f', _, rfl, rfl, by decide, by decide⟩
    · exact ⟨'t', _, rfl, rfl, by decide, by decide⟩

/-! ## Blanks -/

theorem skipSpace_of_not {c : Char} (h : Cursor.isSpace c = false) (p : Nat) (cs : List Char) :
    Cursor.skipSpace ⟨p, c :: cs⟩ = ⟨p, c :: cs⟩ := by
  simp [Cursor.skipSpace, Cursor.advance, h]

theorem pass?_cons {c : Char} {w : String} (h : w.toList = [c]) (p : Nat) (cs : List Char) :
    Cursor.pass? ⟨p, c :: cs⟩ w = some ⟨p + 1, cs⟩ := by
  simp [Cursor.pass?, h, Cursor.advance]

/-- Nothing but blanks. -/
def Blank (gap : List Char) : Prop := ∀ c ∈ gap, Cursor.isSpace c = true

/-- The end of a line with blanks behind it, or nothing at all. -/
structure Breaks (gap : List Char) : Prop where
  blank : Blank gap
  starts : ∀ c ∈ gap.head?, c = '\n'

theorem Breaks.nil : Breaks [] := ⟨List.forall_mem_nil _, fun _ h => by cases h⟩

/-- Blanks in front of something else are skipped. -/
theorem Blank.skipSpace {gap : List Char} (h : Blank gap) {c : Char} (hc : Cursor.isSpace c = false) (p : Nat) (cs : List Char) :
    Cursor.skipSpace ⟨p, gap ++ c :: cs⟩ = ⟨p + gap.length, c :: cs⟩ := by
  have htake : (gap ++ c :: cs).takeWhile Cursor.isSpace = gap := by
    rw [List.takeWhile_append_of_pos h, List.takeWhile_cons_of_neg (ne_true_of_eq_false hc), List.append_nil]
  simp [Cursor.skipSpace, Cursor.advance, htake]

theorem Spells.skipSpace {cs : List Char} {d : Data} (h : Spells cs d) {gap : List Char} (hgap : Blank gap) (p : Nat) (rest : List Char) :
    Cursor.skipSpace ⟨p, gap ++ (cs ++ rest)⟩ = ⟨p + gap.length, cs ++ rest⟩ := by
  obtain ⟨c, tail, rfl, hspace, -⟩ := h.opens
  exact hgap.skipSpace hspace ..

theorem closes_cons {c : Char} (h : c = ',' ∨ c = ']' ∨ c = '\x7d' ∨ c = '\n') (cs : List Char) : Closes (c :: cs) := fun _ hc => by
  cases hc
  exact h

/-- A mark closes a value, also at the start of a new line. -/
theorem Breaks.closes {gap : List Char} (h : Breaks gap) {c : Char} (hc : c = ',' ∨ c = ']' ∨ c = '\x7d') (rest : List Char) :
    Closes (gap ++ c :: rest) := by
  cases gap with
  | nil => exact closes_cons (hc.imp_right (Or.imp_right .inl)) rest
  | cons b gap => exact closes_cons (.inr (.inr (.inr (h.starts b rfl)))) _

/-! ## Lists -/

/-- Texts with commas between them, and a gap behind each comma. -/
def joined (gap : List Char) (texts : List (List Char)) : List Char := (',' :: gap).intercalate texts

theorem joined_cons_cons (gap cs ds : List Char) (texts : List (List Char)) :
    joined gap (cs :: ds :: texts) = cs ++ ',' :: (gap ++ joined gap (ds :: texts)) := by
  simp [joined, List.intercalate]

/-- Texts between two marks, with a gap behind the first and one in front of the second. -/
def enclosed (left right : Char) (gap last : List Char) (texts : List (List Char)) : List Char :=
  if texts.isEmpty then [left, right] else left :: (gap ++ (joined gap texts ++ (last ++ [right])))

section Items

variable {cs : List Char} {d : Data} (h : Spells cs d) {fuel : Nat} (hf : 2 * cs.length ≤ fuel) (p : Nat) (rest : List Char)

include h hf

theorem arrayFrom_last {last : List Char} (hlast : Breaks last) (acc : List Data) :
    arrayFrom (fuel + 1) ⟨p, cs ++ (last ++ ']' :: rest)⟩ acc = .ok (.list (d :: acc).reverse, ⟨p + cs.length + last.length + 1, rest⟩) := by
  rw [arrayFrom, h.reads hf p (hlast.closes (.inr (.inl rfl)) _)]
  simp only [bind, Except.bind, hlast.blank.skipSpace (c := ']') rfl, pass?_cons (c := ']') (w := "]") rfl]
  rfl

theorem arrayFrom_more (acc : List Data) :
    arrayFrom (fuel + 1) ⟨p, cs ++ ',' :: rest⟩ acc = arrayFrom fuel (Cursor.skipSpace ⟨p + cs.length + 1, rest⟩) (d :: acc) := by
  have hno := pass?_of_ne (x := ']') (a := ',') (by decide) (w := "]") rfl (p + cs.length) rest
  rw [arrayFrom, h.reads hf p (closes_cons (by simp) _)]
  simp only [bind, Except.bind, skipSpace_of_not (c := ',') rfl, hno, pass?_cons (c := ',') (w := ",") rfl]

end Items

/-- Joined texts start as the first of them. -/
theorem joined_opens {α : Type} {R : List Char → α → Prop} {P : Char → Prop} (opens : ∀ {cs x}, R cs x → ∃ c tail, cs = c :: tail ∧ P c)
    (gap : List Char) {texts : List (List Char)} {xs : List α} (h : List.Forall₂ R texts xs) (hne : texts ≠ []) :
    ∃ c tail, joined gap texts = c :: tail ∧ P c := by
  cases h with
  | nil => exact absurd rfl hne
  | @cons cs x texts xs hcs htexts =>
    obtain ⟨c, tail, rfl, hc⟩ := opens hcs
    cases htexts with
    | nil => exact ⟨c, tail, by simp [joined, List.intercalate], hc⟩
    | cons => exact ⟨c, _, by rw [joined_cons_cons, List.cons_append], hc⟩

section Joined

variable {gap last : List Char} (hgap : Blank gap) (hlast : Breaks last)

include hgap

/-- A reader that goes from item to item and from comma to comma reads joined texts to the mark behind them. -/
theorem reads_joined {α : Type} {R : List Char → α → Prop} (reader : Nat → Cursor → List α → Except ReadError (Data × Cursor)) (close : Char)
    (result : List α → Data) (opens : ∀ {cs x}, R cs x → ∃ c tail, cs = c :: tail ∧ Cursor.isSpace c = false)
    (ends : ∀ {cs x fuel}, R cs x → 2 * cs.length ≤ fuel → ∀ p rest acc,
      reader (fuel + 1) ⟨p, cs ++ (last ++ close :: rest)⟩ acc = .ok (result (x :: acc).reverse, ⟨p + cs.length + last.length + 1, rest⟩))
    (more : ∀ {cs x fuel}, R cs x → 2 * cs.length ≤ fuel → ∀ p rest acc,
      reader (fuel + 1) ⟨p, cs ++ ',' :: rest⟩ acc = reader fuel (Cursor.skipSpace ⟨p + cs.length + 1, rest⟩) (x :: acc))
    {texts : List (List Char)} {xs : List α} (h : List.Forall₂ R texts xs) (hne : texts ≠ []) {n : Nat} (hf : 2 * (joined gap texts).length < n)
    (p : Nat) (rest : List Char) (acc : List α) :
    reader n ⟨p, joined gap texts ++ (last ++ close :: rest)⟩ acc =
      .ok (result (acc.reverse ++ xs), ⟨p + (joined gap texts).length + last.length + 1, rest⟩) := by
  induction h generalizing n p acc with
  | nil => exact absurd rfl hne
  | @cons cs x texts xs hcs htexts ih =>
    obtain _ | n := n
    · cases hf
    cases htexts with
    | nil =>
      have hj : joined gap [cs] = cs := by simp [joined, List.intercalate]
      rw [hj] at hf ⊢
      rw [ends hcs (by omega)]
      simp
    | @cons ds y texts xs hds htexts =>
      rw [joined_cons_cons, List.length_append, List.length_cons, List.length_append] at hf
      obtain ⟨c, tail, heq, hspace⟩ := joined_opens (R := R) opens gap (.cons hds htexts) (by simp)
      have hskip (q : Nat) : Cursor.skipSpace ⟨q, gap ++ (joined gap (ds :: texts) ++ (last ++ close :: rest))⟩ =
          ⟨q + gap.length, joined gap (ds :: texts) ++ (last ++ close :: rest)⟩ := by
        rw [heq]
        exact hgap.skipSpace hspace ..
      rw [joined_cons_cons, List.append_assoc, List.cons_append, List.append_assoc, more hcs (by omega), hskip, ih (by simp) (by omega)]
      simp
      omega

include hlast

theorem arrayFrom_joined {texts : List (List Char)} {ds : List Data} (h : List.Forall₂ Spells texts ds) (hne : texts ≠ []) {n : Nat}
    (hf : 2 * (joined gap texts).length < n) (p : Nat) (rest : List Char) (acc : List Data) :
    arrayFrom n ⟨p, joined gap texts ++ (last ++ ']' :: rest)⟩ acc =
      .ok (.list (acc.reverse ++ ds), ⟨p + (joined gap texts).length + last.length + 1, rest⟩) :=
  reads_joined hgap arrayFrom ']' .list (fun hs => by
    obtain ⟨c, tail, heq, hspace, -⟩ := hs.opens
    exact ⟨c, tail, heq, hspace⟩) (fun hs hf p rest acc => arrayFrom_last hs hf p rest hlast acc) (fun hs hf => arrayFrom_more hs hf) h hne hf p rest acc

omit hlast in
theorem valueAt_array {c : Char} (hs : Cursor.isSpace c = false) (hc : c ≠ ']') (fuel p : Nat) (cs : List Char) :
    valueAt (fuel + 1) ⟨p, '[' :: (gap ++ c :: cs)⟩ = arrayFrom fuel ⟨p + 1 + gap.length, c :: cs⟩ [] := by
  have hclose := pass?_of_ne hc.symm (w := "]") rfl (p + 1 + gap.length) cs
  rw [valueAt]
  simp only [Cursor.advance, List.drop_succ_cons, List.drop_zero, hgap.skipSpace hs, hclose]

theorem spells_list {texts : List (List Char)} {ds : List Data} (h : List.Forall₂ Spells texts ds) :
    Spells (enclosed '[' ']' gap last texts) (.list ds) where
  reads {fuel} hfuel p {rest} hr := by
    by_cases hne : texts = []
    · subst hne
      cases h
      obtain _ | fuel := fuel
      · simp [enclosed] at hfuel
      rfl
    · simp only [enclosed, List.isEmpty_eq_false_iff.mpr hne, Bool.false_eq_true, if_false, List.length_cons, List.length_append, List.length_nil] at hfuel ⊢
      obtain _ | fuel := fuel
      · omega
      obtain ⟨c, tail, heq, hspace, hclose, -⟩ := joined_opens Spells.opens gap h hne
      have hread := arrayFrom_joined hgap hlast h hne (n := fuel) (by omega) (p + 1 + gap.length) rest []
      rw [heq] at hread ⊢
      simp only [List.cons_append, List.append_assoc, List.nil_append] at hread ⊢
      rw [valueAt_array hgap hspace hclose, hread]
      simp
      omega
  opens := by
    unfold enclosed
    split
    · exact ⟨'[', _, rfl, rfl, by decide, by decide⟩
    · exact ⟨'[', _, rfl, rfl, by decide, by decide⟩

end Joined

/-! ## Objects -/

/-- The characters of an entry of an object: a string, a colon with a gap behind it, and a value. -/
def SpellsEntry (space : List Char) (cs : List Char) (e : Data × Data) : Prop :=
  ∃ name value, e.1 = .str name ∧ cs = (stringText name).toList ++ ':' :: (space ++ value) ∧ Spells value e.2

/-- The dictionary of entries that were read. -/
def gather (es : List (Data × Data)) : List (Data × Data) := es.foldl (fun es e => addMember es e.1 e.2) []

/-- How the reading of an object goes on behind an entry. -/
def objectAfter (fuel : Nat) (c : Cursor) (acc : List (Data × Data)) : Except ReadError (Data × Cursor) :=
  match c.pass? "\x7d" with
  | some c' => pure (.dict (gather acc.reverse), c')
  | none =>
    match c.pass? "," with
    | none => fail c .comma
    | some c' => objectFrom fuel c'.skipSpace acc

section Entries

variable {space : List Char} (hspace : Blank space) {cs : List Char} {e : Data × Data} (h : SpellsEntry space cs e) {fuel : Nat}
  (hf : 2 * cs.length ≤ fuel) (p : Nat) (rest : List Char)

include hspace h hf

/-- An entry is read to the mark behind it. -/
theorem objectFrom_entry {last : List Char} (hlast : Breaks last) {mark : Char} (hm : mark = ',' ∨ mark = '\x7d') (acc : List (Data × Data)) :
    objectFrom (fuel + 1) ⟨p, cs ++ (last ++ mark :: rest)⟩ acc = objectAfter fuel ⟨p + cs.length + last.length, mark :: rest⟩ (e :: acc) := by
  obtain ⟨name, value, hname, rfl, hvalue⟩ := h
  obtain ⟨k, d⟩ := e
  obtain rfl := hname
  have hlength := length_lt_stringText name
  simp only [List.length_append, List.length_cons] at hf
  have hquote : ((stringText name).toList ++ (':' :: (space ++ (value ++ (last ++ mark :: rest))))).head? = some '"' := by
    simp [stringText]
  have hcloses : mark = ',' ∨ mark = ']' ∨ mark = '\x7d' := hm.imp_right .inr
  have hmark : Cursor.isSpace mark = false := by
    obtain rfl | rfl := hm <;> rfl
  rw [List.append_assoc, List.cons_append, List.append_assoc, objectFrom, hquote, stringAt_stringText name p _ (by omega)]
  simp only [bind, Except.bind, bne_self_eq_false, Bool.false_eq_true, if_false, skipSpace_of_not (c := ':') rfl,
    pass?_cons (c := ':') (w := ":") rfl, hvalue.skipSpace hspace]
  rw [hvalue.reads (by omega) _ (hlast.closes hcloses _)]
  simp only [hlast.blank.skipSpace hmark, List.length_append, List.length_cons]
  rw [show p + (stringText name).toList.length + 1 + space.length + value.length + last.length =
    p + ((stringText name).toList.length + (space.length + value.length + 1)) + last.length by omega]
  rfl

theorem objectFrom_last {last : List Char} (hlast : Breaks last) (acc : List (Data × Data)) :
    objectFrom (fuel + 1) ⟨p, cs ++ (last ++ '\x7d' :: rest)⟩ acc =
      .ok (.dict (gather (e :: acc).reverse), ⟨p + cs.length + last.length + 1, rest⟩) := by
  rw [objectFrom_entry hspace h hf p rest hlast (.inr rfl), objectAfter, pass?_cons (c := '\x7d') (w := "\x7d") rfl]
  rfl

theorem objectFrom_more (acc : List (Data × Data)) :
    objectFrom (fuel + 1) ⟨p, cs ++ ',' :: rest⟩ acc = objectFrom fuel (Cursor.skipSpace ⟨p + cs.length + 1, rest⟩) (e :: acc) := by
  have hno := pass?_of_ne (x := '\x7d') (a := ',') (by decide) (w := "\x7d") rfl (p + cs.length) rest
  have hentry := objectFrom_entry hspace h hf p rest .nil (.inl rfl) acc
  rw [List.nil_append] at hentry
  rw [hentry, List.length_nil, Nat.add_zero, objectAfter, hno, pass?_cons (c := ',') (w := ",") rfl]

end Entries

theorem SpellsEntry.opens {space cs : List Char} {e : Data × Data} (h : SpellsEntry space cs e) : ∃ c tail, cs = c :: tail ∧ c = '"' := by
  obtain ⟨name, value, -, rfl, -⟩ := h
  exact ⟨'"', _, by rw [stringText, String.toList_ofList, List.cons_append], rfl⟩

section Members

variable {gap last space : List Char} (hgap : Blank gap) (hlast : Breaks last) (hspace : Blank space)

include hgap

theorem valueAt_object (fuel p : Nat) (cs : List Char) :
    valueAt (fuel + 1) ⟨p, '\x7b' :: (gap ++ '"' :: cs)⟩ = objectFrom fuel ⟨p + 1 + gap.length, '"' :: cs⟩ [] := by
  have hclose := pass?_of_ne (x := '\x7d') (a := '"') (by decide) (w := "\x7d") rfl (p + 1 + gap.length) cs
  rw [valueAt]
  simp only [Cursor.advance, List.drop_succ_cons, List.drop_zero, hgap.skipSpace (c := '"') rfl, hclose]

include hlast hspace

theorem objectFrom_joined {texts : List (List Char)} {es : List (Data × Data)} (h : List.Forall₂ (SpellsEntry space) texts es) (hne : texts ≠ [])
    {n : Nat} (hf : 2 * (joined gap texts).length < n) (p : Nat) (rest : List Char) (acc : List (Data × Data)) :
    objectFrom n ⟨p, joined gap texts ++ (last ++ '\x7d' :: rest)⟩ acc =
      .ok (.dict (gather (acc.reverse ++ es)), ⟨p + (joined gap texts).length + last.length + 1, rest⟩) :=
  reads_joined hgap objectFrom '\x7d' (fun es => .dict (gather es)) (fun hs => by
    obtain ⟨c, tail, heq, rfl⟩ := hs.opens
    exact ⟨'"', tail, heq, rfl⟩) (fun hs hf p rest acc => objectFrom_last hspace hs hf p rest hlast acc) (fun hs hf => objectFrom_more hspace hs hf)
    h hne hf p rest acc

theorem spells_dict {texts : List (List Char)} {es : List (Data × Data)} (h : List.Forall₂ (SpellsEntry space) texts es) :
    Spells (enclosed '\x7b' '\x7d' gap last texts) (.dict (gather es)) where
  reads {fuel} hfuel p {rest} hr := by
    by_cases hne : texts = []
    · subst hne
      cases h
      obtain _ | fuel := fuel
      · simp [enclosed] at hfuel
      rfl
    · simp only [enclosed, List.isEmpty_eq_false_iff.mpr hne, Bool.false_eq_true, if_false, List.length_cons, List.length_append, List.length_nil] at hfuel ⊢
      obtain _ | fuel := fuel
      · omega
      obtain ⟨c, tail, heq, rfl⟩ := joined_opens SpellsEntry.opens gap h hne
      have hread := objectFrom_joined hgap hlast hspace h hne (n := fuel) (by omega) (p + 1 + gap.length) rest []
      rw [heq] at hread ⊢
      simp only [List.cons_append, List.append_assoc, List.nil_append] at hread ⊢
      rw [valueAt_object hgap, hread]
      simp
      omega
  opens := by
    unfold enclosed
    split
    · exact ⟨'\x7b', _, rfl, rfl, by decide, by decide⟩
    · exact ⟨'\x7b', _, rfl, rfl, by decide, by decide⟩

end Members

/-- **A text that spells a value is read as it.** -/
theorem Spells.read_eq {t : String} {d : Data} (h : Spells t.toList d) : Json.read t = .ok d := by
  obtain ⟨c, tail, heq, hspace, -, hmark⟩ := h.opens
  have hread : valueAt (2 * t.toList.length + 2) ⟨0, t.toList ++ []⟩ = _ := h.reads (Nat.le_add_right _ 2) 0 fun c hc => by cases hc
  have hstart : (t.toList.head? == some '\ufeff') = false := by simp [heq, hmark]
  have hskip : Cursor.skipSpace ⟨0, t.toList⟩ = ⟨0, t.toList⟩ := by
    rw [heq]
    exact skipSpace_of_not hspace ..
  rw [List.append_nil] at hread
  simp only [Json.read, hstart, hskip, hread, Bool.false_eq_true, if_false]
  rfl

end Json
end ScriptFlow
