import Mathlib
import ScriptFlow.Proofs.Script.Conversion
import ScriptFlow.Proofs.Script.Keys
import ScriptFlow.Script.Syntax.Parser
import ScriptFlow.Text.Identifier

/-!
# Names in scripts

Which words a script can use for a name, and what a script that only gives back a global looks like to its reader.

* `Lexer.IsName` — a letter, then letters and digits, and no reserved word.
* `Token.exists_name_iff` — these are the names that can be read from a text.
* `Chunk.parse_global` — the script `return name` is read as one look-up in the environment; `Chunk.parse_environment` — unless it names the environment.
* `isIdentifier_of_isName` — these words are identifiers, and there are others.
-/

/-! ## Bytes of texts -/

/-- The bytes of an array, read from the front. -/
theorem ByteArray.toList_eq (bs : ByteArray) : bs.toList = bs.data.toList := by
  have hloop (i : Nat) (acc : List UInt8) : toList.loop bs i acc = acc.reverse ++ bs.data.toList.drop i := by
    induction i, acc using toList.loop.induct bs with
    | case1 i acc hi ih =>
      have hlen : i < bs.data.toList.length := by
        rw [Array.length_toList]
        exact hi
      have hget : bs.get! i = bs.data.toList[i] := by
        rw [Array.getElem_toList]
        exact getElem!_pos bs.data i hi
      rw [toList.loop.eq_1, if_pos hi, ih, List.drop_eq_getElem_cons hlen, hget, List.reverse_cons, List.append_assoc, List.singleton_append]
    | case2 i acc hi =>
      have hlen : bs.data.toList.length ≤ i := by
        rw [Array.length_toList]
        exact Nat.le_of_not_lt hi
      rw [toList.loop.eq_1, if_neg hi, List.drop_eq_nil_of_le hlen, List.append_nil]
  exact hloop 0 []

theorem ByteArray.toList_injective {bs bs' : ByteArray} (h : bs.toList = bs'.toList) : bs = bs' := by
  rw [toList_eq, toList_eq] at h
  exact ByteArray.ext (Array.toList_inj.mp h)

/-- A text of characters below 128 has one byte for each. -/
theorem List.toList_utf8Encode {cs : List Char} (h : ∀ c ∈ cs, c.toNat < 128) : cs.utf8Encode.toList = cs.map fun c => UInt8.ofNat c.toNat := by
  rw [ByteArray.toList_eq]
  induction cs with
  | nil => rfl
  | cons c cs ih =>
    obtain ⟨hc, hcs⟩ := List.forall_mem_cons.mp h
    have hone : String.utf8EncodeChar c = [UInt8.ofNat c.toNat] := by
      rw [String.utf8EncodeChar.eq_def]
      exact if_pos (Nat.le_of_lt_succ hc)
    rw [List.utf8Encode_cons, ByteArray.data_append, Array.toList_append, ih hcs, List.map_cons]
    simp [List.utf8Encode, hone]

namespace ScriptFlow.Script

/-! ## Words -/

namespace Lexer

/-- A word that a script can use for a name. -/
structure IsName (word : Bytes) : Prop where
  starts : word.head?.any isLetter = true
  goesOn : word.all isNameByte = true
  free : ∀ w ∈ reservedWords, w.toUTF8.toList ≠ word

instance (word : Bytes) : Decidable (IsName word) :=
  decidable_of_iff (word.head?.any isLetter = true ∧ word.all isNameByte = true ∧ ∀ w ∈ reservedWords, w.toUTF8.toList ≠ word)
    ⟨fun ⟨h, h', h''⟩ => ⟨h, h', h''⟩, fun ⟨h, h', h''⟩ => ⟨h, h', h''⟩⟩

example : IsName "tools".toUTF8.toList ∧ ¬ IsName "end".toUTF8.toList := by decide +kernel

/-- A letter starts nothing but a word. -/
theorem isLetter_cases : ∀ b : UInt8, isLetter b = true → isLineEnd b = false ∧ isSpace b = false ∧ isDigit b = false ∧ isNameByte b = true ∧
    (b == byteOf '-') = false ∧ (b == byteOf '[') = false ∧ (b == byteOf '"') = false ∧ (b == byteOf '\'') = false ∧ (b == byteOf '.') = false := by
  decide +kernel

/-- A word as a token. -/
def wordToken (word : Bytes) : Token :=
  match reservedWords.find? fun w => w.toUTF8.toList == word with
  | some w => .mark w
  | none => .name (pack word)

/-- A word at the front of a text is read as a whole. -/
theorem scan_word {b : UInt8} (h : isLetter b = true) (rest : Bytes) (fuel line : Nat) :
    scan (fuel + 1) line (b :: rest) =
      .ok (wordToken ((b :: rest).takeWhile isNameByte), line, (b :: rest).drop ((b :: rest).takeWhile isNameByte).length) := by
  obtain ⟨hline, hspace, hdigit, -, hminus, hbracket, hdouble, hsingle, hpoint⟩ := isLetter_cases b h
  rw [scan]
  simp only [hline, hspace, hdigit, hminus, hbracket, hdouble, hsingle, hpoint, h, Bool.false_and, Bool.or_self, Bool.false_eq_true, if_false, if_true]
  rfl

/-- Is the token, if it is a name, one that a script can use? -/
def NamesOnly : Token → Prop
  | .name s => IsName s.toList
  | _ => True

theorem toList_pack (bs : Bytes) : (pack bs).toList = bs := by
  rw [ByteArray.toList_eq]
  rfl

theorem namesOnly_scanNumber {line : Nat} {cs : Bytes} {r : Token × Bytes} (h : scanNumber line cs = .ok r) : NamesOnly r.1 := by
  unfold scanNumber at h
  dsimp only at h
  split at h
  · cases h
    trivial
  · cases h

theorem namesOnly_word {b : UInt8} (h : isLetter b = true) (rest : Bytes) :
    NamesOnly (wordToken ((b :: rest).takeWhile isNameByte)) := by
  unfold wordToken
  split
  · trivial
  · next hfree =>
    have hfirst : isNameByte b = true := (isLetter_cases b h).2.2.2.1
    show IsName (pack _).toList
    rw [toList_pack]
    refine ⟨?_, List.all_takeWhile, fun w hw heq => ?_⟩
    · rw [List.takeWhile_cons_of_pos hfirst]
      exact h
    · exact List.find?_eq_none.mp hfree w hw (beq_iff_eq.mpr heq)

/-- The first token of a text is no name but a word that can be one. -/
theorem namesOnly_scan {fuel line : Nat} {cs : Bytes} {r : Token × Nat × Bytes} (h : scan fuel line cs = .ok r) : NamesOnly r.1 := by
  fun_induction scan fuel line cs generalizing r with
  | case1 | case2 | case12 | case13 =>
    cases h
    trivial
  | case8 => cases h
  | case3 | case4 | case6 =>
    rename_i ih
    exact ih h
  | case5 =>
    rename_i ih
    obtain ⟨⟨_, line', after⟩, -, h⟩ := Store.bind_ok_iff.mp h
    exact ih line' after h
  | case7 | case9 =>
    obtain ⟨_, -, h⟩ := Store.bind_ok_iff.mp h
    cases h
    trivial
  | case10 =>
    obtain ⟨_, hnumber, h⟩ := Store.bind_ok_iff.mp h
    cases h
    exact namesOnly_scanNumber hnumber
  | case11 _ _ _ rest _ _ _ _ _ _ hletter =>
    cases h
    exact namesOnly_word hletter rest

theorem namesOnly_scanFrom (chunk : ByteArray) {fuel line : Nat} {cs : Bytes} {t : PlacedToken} (h : t ∈ scanFrom chunk fuel line cs) : NamesOnly t.token := by
  fun_induction scanFrom chunk fuel line cs with
  | case1 | case2 | case4 =>
    cases List.mem_singleton.mp h
    trivial
  | case3 _ _ _ _ _ _ _ hscan ih =>
    rcases List.mem_cons.mp h with rfl | h
    · exact namesOnly_scan hscan
    · exact ih h

end Lexer

/-- **Every name in a script is a word that can be one.** -/
theorem Token.isName_of_mem_scanAll {chunk text name : ByteArray} {line : Nat} (h : ⟨.name name, line⟩ ∈ scanAll chunk text) : Lexer.IsName name.toList :=
  Lexer.namesOnly_scanFrom chunk h

/-! ## The script that gives back a name -/

namespace Lexer

/-- A name that ends a text is read as a whole. -/
theorem scan_name {name : Bytes} (h : IsName name) (fuel line : Nat) : scan (fuel + 1) line name = .ok (.name (pack name), line, []) := by
  cases name with
  | nil => cases h.starts
  | cons b rest =>
    have hall : (b :: rest).takeWhile isNameByte = b :: rest := List.takeWhile_eq_self_iff.mpr (List.all_eq_true.mp h.goesOn)
    have hfree : (reservedWords.find? fun w => w.toUTF8.toList == b :: rest) = none :=
      List.find?_eq_none.mpr fun w hw heq => h.free w hw (beq_iff_eq.mp heq)
    rw [scan_word h.starts, hall, wordToken, hfree, List.drop_length]

/-- The bytes of `return` and a blank. -/
def returnBytes : Bytes := [114, 101, 116, 117, 114, 110, 32]

theorem toList_return (name : String) : ("return " ++ name).toUTF8.toList = returnBytes ++ name.toUTF8.toList := by
  have hreturn : "return ".toByteArray.data.toList = returnBytes := by decide +kernel
  rw [ByteArray.toList_eq, ByteArray.toList_eq, String.toUTF8_eq_toByteArray, String.toUTF8_eq_toByteArray, String.toByteArray_append, ByteArray.data_append,
    Array.toList_append, hreturn]

theorem scan_return (name : Bytes) (fuel line : Nat) : scan (fuel + 1) line (returnBytes ++ name) = .ok (.mark "return", line, 32 :: name) := by
  have hcons : returnBytes ++ name = 114 :: ([101, 116, 117, 114, 110, 32] ++ name) := rfl
  have hword : (114 :: ([101, 116, 117, 114, 110, 32] ++ name) : Bytes).takeWhile isNameByte = [114, 101, 116, 117, 114, 110] := rfl
  have hreserved : (reservedWords.find? fun w => w.toUTF8.toList == [114, 101, 116, 117, 114, 110]) = some "return" := by decide +kernel
  rw [hcons, scan_word rfl, hword, wordToken, hreserved]
  rfl

theorem scan_blank (name : Bytes) (fuel line : Nat) : scan (fuel + 1) line (32 :: name) = scan fuel line name := rfl

end Lexer

/-- The tokens of a text that gives back a name. -/
theorem Token.scanAll_return (chunk : ByteArray) {name : String} (h : Lexer.IsName name.toUTF8.toList) :
    scanAll chunk ("return " ++ name).toUTF8 = [⟨.mark "return", 1⟩, ⟨.name name.toUTF8, 1⟩, ⟨.finish, 1⟩] := by
  have hname : Lexer.pack name.toUTF8.toList = name.toUTF8 := by
    rw [ByteArray.toList_eq]
    rfl
  obtain ⟨n, hn⟩ : ∃ n, ("return " ++ name).toUTF8.size + 1 = n + 3 := by
    have hsize : ("return " ++ name).toUTF8.size = 7 + name.toUTF8.size := by
      rw [String.toUTF8_eq_toByteArray, String.toByteArray_append, ByteArray.size_append]
      rfl
    exact ⟨5 + name.toUTF8.size, by omega⟩
  have hlength : (32 :: name.toUTF8.toList).length + 1 = name.toUTF8.toList.length + 1 + 1 := rfl
  rw [scanAll, Lexer.toList_return, hn, Lexer.scanFrom, Lexer.scan_return]
  dsimp only
  rw [Lexer.scanFrom, hlength, Lexer.scan_blank, Lexer.scan_name h, hname]
  rfl

namespace Parser

/-- A parser that gives a value and a state. -/
theorem run_bind {α β : Type} {p : P α} {s s' : State} {a : α} (h : p.run s = .ok (a, s')) (f : α → P β) : (p >>= f).run s = (f a).run s' := by
  rw [StateT.run_bind, h]
  rfl

/-- In front of the last word of a script without variables. -/
def lastWord (chunk name : ByteArray) : State :=
  { chunk := chunk, tokens := [⟨.name name, 1⟩, ⟨.finish, 1⟩], lastLine := 1, vars := [⟨environmentName, .none, 0⟩]
    place := ⟨1, 1, true, none, false⟩, labels := [], jumps := [], blockDepth := 1 }

def behindLast (chunk : ByteArray) : State := { lastWord chunk .empty with tokens := [⟨.finish, 1⟩] }

variable {chunk name : ByteArray} {e : Exp} (h : (nameExpression name).run (behindLast chunk) = .ok (e, behindLast chunk))

include h

theorem run_suffixed (g : Grammar) : (suffixed g).run (lastWord chunk name) = .ok (e, behindLast chunk) :=
  have hprimary : (primary g).run (lastWord chunk name) = .ok (e, behindLast chunk) := h
  (run_bind hprimary _).trans rfl

theorem run_expression (g : Grammar) (limit : Nat) : (expression g limit).run (lastWord chunk name) = .ok (e, behindLast chunk) :=
  have hcurrent : current.run (lastWord chunk name) = .ok (⟨.name name, 1⟩, lastWord chunk name) := rfl
  have hsimple : (simple g).run (lastWord chunk name) = .ok (e, behindLast chunk) := run_suffixed h g
  (run_bind hcurrent _).trans ((run_bind hsimple _).trans rfl)

theorem run_expressions (n : Nat) : (expressions (nested (n + 1))).run (lastWord chunk name) = .ok ([e], behindLast chunk) :=
  (run_bind (run_expression h (nested n) 0) _).trans rfl

theorem run_return (n : Nat) (he : e.isOpen = false) :
    (returnStatement (nested (n + 1))).run (lastWord chunk name) = .ok (.give [e], behindLast chunk) := by
  have hend : (atBlockEnd true).run (lastWord chunk name) = .ok (false, lastWord chunk name) := rfl
  have hmark : (atMark ";").run (lastWord chunk name) = .ok (false, lastWord chunk name) := rfl
  have hvalues : (if (false || false) = true then pure [] else expressions (nested (n + 1)) : P (List Exp)).run (lastWord chunk name) =
      .ok ([e], behindLast chunk) :=
    run_expressions h n
  refine (run_bind hend _).trans ((run_bind hmark _).trans ((run_bind hvalues _).trans ?_))
  cases e with
  | call | method | varargs => cases he
  | _ => rfl

/-- A block that gives back what a name stands for. -/
theorem run_block (n : Nat) (he : e.isOpen = false) :
    (nested (n + 2)).block.run { lastWord chunk name with tokens := ⟨.mark "return", 1⟩ :: (lastWord chunk name).tokens } =
      .ok ([.give [e]], behindLast chunk) := by
  let start : State := { lastWord chunk name with tokens := ⟨.mark "return", 1⟩ :: (lastWord chunk name).tokens }
  have hget : (get : P State).run start = .ok (start, start) := rfl
  have hend : (atBlockEnd true).run start = .ok (false, start) := rfl
  have hcurrent : current.run start = .ok (⟨.mark "return", 1⟩, start) := rfl
  have hadvance : advance.run start = .ok ((), lastWord chunk name) := rfl
  refine (run_bind hget _).trans ((run_bind hend _).trans ((run_bind hcurrent _).trans ((run_bind hadvance _).trans ?_)))
  exact (run_bind (run_return h n he) _).trans rfl

end Parser

/-- A script that gives back a name is one statement. -/
theorem Chunk.parse_return (chunk : ByteArray) {name : String} (h : Lexer.IsName name.toUTF8.toList) {e : Exp} (he : e.isOpen = false)
    (hname : (Parser.nameExpression name.toUTF8).run (Parser.behindLast chunk) = .ok (e, Parser.behindLast chunk)) :
    Chunk.parse chunk ("return " ++ name).toUTF8 = .ok [.give [e]] := by
  let start : Parser.State := { Parser.lastWord chunk name.toUTF8 with tokens := ⟨.mark "return", 1⟩ :: (Parser.lastWord chunk name.toUTF8).tokens }
  have hget : (get : Parser.P Parser.State).run start = .ok (start, start) := rfl
  have hreadable : (Parser.checkReadable start.tokens).run start = .ok ((), start) := rfl
  have hblock : (Parser.nested Parser.maxNesting).block.run start = .ok ([.give [e]], Parser.behindLast chunk) := Parser.run_block hname 193 he
  rw [Chunk.parse, Token.scanAll_return chunk h]
  change (StateT.run _ start >>= _) = _
  rw [Parser.run_bind hget, Parser.run_bind hreadable, Parser.run_bind hblock]
  rfl

/-- The environment of a script that is no function of another. -/
def environmentVariable : Variable := ⟨"_ENV".toUTF8, 0, true⟩

theorem Parser.run_nameExpression {s : State} {name : ByteArray} {v : Variable} {trait : Attribute} (hname : resolve s name = none)
    (henvironment : resolve s environmentName = some (v, trait)) :
    (nameExpression name).run s = .ok (.index (.var v) (.value (.str name)) s.lastLine, s) := by
  have hget : (get : P State).run s = .ok (s, s) := rfl
  rw [nameExpression, run_bind hget, hname]
  dsimp only
  rw [henvironment]
  rfl

/-- **A global is looked up in the environment.** -/
theorem Chunk.parse_global (chunk : ByteArray) {name : String} (h : Lexer.IsName name.toUTF8.toList) (hne : name ≠ "_ENV") :
    Chunk.parse chunk ("return " ++ name).toUTF8 = .ok [.give [.index (.var environmentVariable) (.value (.str name.toUTF8)) 1]] := by
  have hother : ("_ENV".toUTF8 == name.toUTF8) = false := Bool.eq_false_iff.mpr fun heq => hne (String.toByteArray_inj.mp (ByteArray.ext (eq_of_beq heq))).symm
  have hnone : Parser.resolve (Parser.behindLast chunk) name.toUTF8 = none := by
    simp only [Parser.resolve, Parser.behindLast, Parser.lastWord, Parser.environmentName, List.findIdx?_singleton, hother]
    rfl
  exact parse_return chunk h rfl (Parser.run_nameExpression hnone rfl)

/-- The environment is a variable. -/
theorem Chunk.parse_environment (chunk : ByteArray) : Chunk.parse chunk ("return " ++ "_ENV").toUTF8 = .ok [.give [.var environmentVariable]] :=
  parse_return chunk (by decide +kernel) rfl rfl

/-- **The words that are names in scripts**: a text is one exactly if some script has it as a name. -/
theorem Token.exists_name_iff (name : String) : (∃ chunk text line, ⟨.name name.toUTF8, line⟩ ∈ scanAll chunk text) ↔ Lexer.IsName name.toUTF8.toList := by
  constructor
  · rintro ⟨chunk, text, line, h⟩
    exact isName_of_mem_scanAll h
  · intro h
    refine ⟨.empty, ("return " ++ name).toUTF8, 1, ?_⟩
    rw [scanAll_return .empty h]
    exact List.mem_cons_of_mem _ (List.mem_cons_self ..)

/-! ## Identifiers -/

theorem charOf_byte : ∀ b : UInt8, Lexer.isNameByte b = true → (Char.ofNat b.toNat).toNat < 128 ∧ UInt8.ofNat (Char.ofNat b.toNat).toNat = b ∧
    Text.identifierContinue.contains (Char.ofNat b.toNat).toNat = true ∧
    (Lexer.isLetter b = true → Text.identifierStart.contains (Char.ofNat b.toNat).toNat = true) := by
  decide +kernel

/-- **A word that a script can use is an identifier.** -/
theorem isIdentifier_of_isName {name : String} (h : Lexer.IsName name.toUTF8.toList) : Text.isIdentifier name = true := by
  obtain ⟨hstarts, hgoesOn, -⟩ := h
  have hbytes := List.all_eq_true.mp hgoesOn
  have hname : name = String.ofList (name.toUTF8.toList.map fun b => Char.ofNat b.toNat) := by
    have hascii : ∀ c ∈ name.toUTF8.toList.map fun b => Char.ofNat b.toNat, c.toNat < 128 := by
      rintro c hc
      obtain ⟨b, hb, rfl⟩ := List.mem_map.mp hc
      exact (charOf_byte b (hbytes b hb)).1
    refine String.toByteArray_inj.mp (ByteArray.toList_injective ?_)
    rw [String.toByteArray_ofList, List.toList_utf8Encode hascii, List.map_map]
    exact ((List.map_congr_left fun b hb => (charOf_byte b (hbytes b hb)).2.1).trans (List.map_id _)).symm
  rw [Text.isIdentifier, hname, String.toList_ofList]
  cases hword : name.toUTF8.toList with
  | nil =>
    rw [hword] at hstarts
    cases hstarts
  | cons b rest =>
    rw [hword] at hstarts hbytes
    obtain ⟨hb, hrest⟩ := List.forall_mem_cons.mp hbytes
    refine Bool.and_eq_true_iff.mpr ⟨(charOf_byte b hb).2.2.2 hstarts, List.all_eq_true.mpr fun c hc => ?_⟩
    obtain ⟨b', hb', rfl⟩ := List.mem_map.mp hc
    exact (charOf_byte b' (hrest b' hb')).2.2.1

end ScriptFlow.Script
