import Mathlib
import ScriptFlow.Proofs.Data.JsonText
import ScriptFlow.Proofs.Worker.Configuration

/-!
# What locations denote

The text of a location names a transport, a host and perhaps a port. What is read is the transport in small letters, the host in small letters and without its
brackets, and the port; a port of 0 is as good as none. The address of a place is its host and its port with a colon between them. Behind the transport such an
address reads as the same place, unless the host holds a colon: nothing puts its brackets back, and what follows the first colon is then no port.

* `Text.lower_lower` — small letters stay as they are.
* `Uri.split_printed` — how the printed form of a place comes apart.
* `Uri.port_eq_ok` — the port that is written.
* `Location.locations_denote_what_is_written` — **what the text of a location denotes, and how its address is read again.**
-/

namespace ScriptFlow

/-! ## Letter case -/

namespace Text

/-- A row of the rules of letter case. -/
abbrev CaseRow := Nat × Nat × Nat × Nat

namespace CaseRow

/-- The row takes a code point. -/
def takes (r : CaseRow) (c : Nat) : Bool := decide (r.1 ≤ c) && decide (c ≤ r.2.1) && (c - r.1) % r.2.2.1 == 0

/-- The row of one code point. -/
def single (c : Nat) : CaseRow := (c, c, 1, c)

/-- Nothing that a row gives is taken by another: it lies before or behind it, or it meets only the code points that the other leaves out. -/
def misses (r q : CaseRow) : Bool :=
  (r.2.2.2 + (r.2.1 - r.1)).blt q.1 || q.2.1.blt r.2.2.2 || (r.2.2.1.beq 2 || r.2.1.ble r.1) && q.2.2.1.beq 2 && ((r.2.2.2 + q.1) % 2).beq 1

theorem not_takes_of_misses {r q : CaseRow} {c : Nat} (h : r.misses q = true) (hc : r.takes c = true) : q.takes (c - r.1 + r.2.2.2) = false := by
  obtain ⟨a, b, step, image⟩ := r
  obtain ⟨a', b', step', image'⟩ := q
  simp only [misses, takes, Bool.or_eq_true, Bool.and_eq_true, decide_eq_true_eq, beq_iff_eq, Nat.blt_eq, Nat.beq_eq, Nat.ble_eq] at h hc
  rw [Bool.eq_false_iff]
  simp only [takes, Bool.and_eq_true, decide_eq_true_eq, beq_iff_eq, ne_eq]
  rintro ⟨⟨hfirst, hlast⟩, hstep⟩
  obtain (hbefore | hbehind) | ⟨⟨hsecond, rfl⟩, hodd⟩ := h
  · omega
  · omega
  · obtain rfl | hone := hsecond <;> omega

end CaseRow

theorem find_eq_some {rules : CaseRules} {c d : Nat} (h : rules.find c = some d) :
    ∃ r ∈ rules.toList, CaseRow.takes r c = true ∧ d = c - r.1 + r.2.2.2 := by
  obtain ⟨⟨a, b, step, image⟩, hr, rfl⟩ := Option.map_eq_some_iff.mp h
  have htakes : CaseRow.takes (a, b, step, image) c = true := by simpa [CaseRow.takes] using Array.find?_some hr
  exact ⟨_, Array.mem_toList_iff.mpr (Array.mem_of_find?_eq_some hr), htakes, rfl⟩

theorem find_eq_none {rules : CaseRules} {c : Nat} (h : ∀ r ∈ rules.toList, CaseRow.takes r c = false) : rules.find c = none := by
  refine Option.map_eq_none_iff.mpr (Array.find?_eq_none.mpr fun r hr => ?_)
  exact Bool.eq_false_iff.mp (h r (Array.mem_toList_iff.mpr hr))

/-- The code points that mean something in a location, and the two whose small form is a matter of its own. -/
def delicateCodes : List Nat := [0x130, 0x3A3, 0x9, 0xA, 0xD, 0x23, 0x25, 0x2F, 0x3A, 0x3F, 0x40, 0x5B, 0x5D] ++ Uri.separatorLookalikes

/-- What small letters may not be: letters that have a small form, and delicate characters. -/
def delicateRows : List CaseRow := lowerRules.toList ++ delicateCodes.map CaseRow.single

theorem lowerRules_miss : (lowerRules.toList.all fun r => delicateRows.all (CaseRow.misses r)) = true := by decide +kernel

/-- A character that is a small form: neither does it have one nor is it delicate. -/
def IsImage (c : Char) : Prop := ∀ q ∈ delicateRows, CaseRow.takes q c.toNat = false

/-- A character that stays as it is in small letters. -/
structure IsSmall (c : Char) : Prop where
  notSigma : c.toNat ≠ 0x3A3
  expansions : c.toNat ≠ 0x130
  rules : lowerRules.find c.toNat = none

theorem isImage_ofNat {n : Nat} (h : ∀ q ∈ delicateRows, CaseRow.takes q n = false) : IsImage (Char.ofNat n) := by
  by_cases hn : n.isValidChar
  · rwa [IsImage, Char.toNat_ofNat, if_pos hn]
  · rw [IsImage, Char.toNat_ofNat, if_neg hn]
    decide +kernel

theorem single_takes (n : Nat) : CaseRow.takes (CaseRow.single n) n = true := by simp [CaseRow.takes, CaseRow.single]

theorem IsImage.ne {c : Char} (h : IsImage c) {n : Nat} (hn : n ∈ delicateCodes) : c.toNat ≠ n := by
  rintro rfl
  have htakes := h (CaseRow.single c.toNat) (List.mem_append_right _ (List.mem_map_of_mem hn))
  rw [single_takes] at htakes
  cases htakes

theorem IsImage.isSmall {c : Char} (h : IsImage c) : IsSmall c where
  notSigma := h.ne (by decide)
  expansions := h.ne (by decide)
  rules := find_eq_none fun r hr => h r (List.mem_append_left _ hr)

/-- What a character becomes in small letters: a small form, unless it stays as it is. -/
theorem mem_lowerAt {before after : List Char} {c d : Char} (h : d ∈ lowerAt before c after) : IsImage d ∨ d = c ∧ IsSmall c := by
  unfold lowerAt at h
  split at h
  · cases List.mem_singleton.mp h
    split <;> exact .inl (isImage_ofNat (by decide +kernel))
  · rename_i hsigma
    unfold mapCase at h
    split at h
    · rename_i n cs hfind
      have hmem := Array.mem_of_find?_eq_some hfind
      simp only [lowerExpansions, List.mem_toArray, List.mem_singleton, Prod.mk.injEq] at hmem
      obtain ⟨-, rfl⟩ := hmem
      obtain ⟨n, hn, rfl⟩ := List.mem_map.mp h
      refine .inl (isImage_ofNat ?_)
      revert n
      decide +kernel
    · rename_i hfind
      split at h
      · rename_i n hn
        cases List.mem_singleton.mp h
        obtain ⟨r, hr, htakes, rfl⟩ := find_eq_some hn
        exact .inl (isImage_ofNat fun q hq =>
          CaseRow.not_takes_of_misses (List.all_eq_true.mp (List.all_eq_true.mp lowerRules_miss r hr) q hq) htakes)
      · rename_i hrules
        cases List.mem_singleton.mp h
        refine .inr ⟨rfl, by simpa using hsigma, ?_, hrules⟩
        intro hexpands
        simp [lowerExpansions, hexpands] at hfind

theorem isSmall_of_mem_lowerFrom {d : Char} : ∀ {before cs : List Char}, d ∈ lowerFrom before cs → IsSmall d
  | _, [], h => absurd h List.not_mem_nil
  | before, c :: rest, h => by
    rcases List.mem_append.mp h with h | h
    · rcases mem_lowerAt h with himage | ⟨rfl, hsmall⟩
      · exact himage.isSmall
      · exact hsmall
    · exact isSmall_of_mem_lowerFrom h

theorem lowerAt_of_isSmall {c : Char} (h : IsSmall c) (before after : List Char) : lowerAt before c after = [c] := by
  have hexpansions : lowerExpansions.find? (·.1 == c.toNat) = none := by
    simp [lowerExpansions, Ne.symm h.expansions]
  rw [lowerAt, if_neg (by simpa using h.notSigma), mapCase, hexpansions]
  simp only [h.rules]

theorem lowerFrom_of_isSmall : ∀ (before : List Char) {cs : List Char}, (∀ c ∈ cs, IsSmall c) → lowerFrom before cs = cs
  | _, [], _ => rfl
  | before, c :: rest, h => by
    rw [lowerFrom, lowerAt_of_isSmall (h c List.mem_cons_self),
      lowerFrom_of_isSmall (c :: before) fun d hd => h d (List.mem_cons_of_mem _ hd), List.singleton_append]

/-- **Small letters stay as they are.** -/
theorem lower_lower (s : String) : lower (lower s) = lower s := by
  rw [lower, lowerFrom_of_isSmall [] fun d hd => isSmall_of_mem_lowerFrom (String.toList_ofList ▸ hd), String.ofList_toList]

/-- A delicate character is in small letters only where it was before. -/
theorem mem_lowerFrom_of_delicate {d : Char} (hd : d.toNat ∈ delicateCodes) : ∀ {before cs : List Char}, d ∈ lowerFrom before cs → d ∈ cs
  | _, [], h => h
  | before, c :: rest, h => by
    rcases List.mem_append.mp h with h | h
    · rcases mem_lowerAt h with himage | ⟨rfl, -⟩
      · exact absurd rfl (himage.ne hd)
      · exact List.mem_cons_self
    · exact List.mem_cons_of_mem _ (mem_lowerFrom_of_delicate hd h)

/-! ## Numbers -/

theorem isDigit_bounds {c : Char} (h : c.isDigit = true) : 48 ≤ c.toNat ∧ c.toNat ≤ 57 := by
  simpa [Char.isDigit, UInt32.le_iff_toNat_le] using h

theorem digitValue?_of_isDigit {c : Char} (h : c.isDigit = true) : digitValue? c = some (c.toNat - 48) := by
  obtain ⟨hlow, hhigh⟩ := isDigit_bounds h
  rw [digitValue?, ← Array.find?_toList, show digitZeros.toList = 0x30 :: digitZeros.toList.tail from rfl, List.find?_cons_of_pos (by simp [hlow, hhigh])]
  rfl

theorem isBlank_of_isDigit {c : Char} (h : c.isDigit = true) : isBlank c = false := by
  obtain ⟨hlow, hhigh⟩ := isDigit_bounds h
  simp [isBlank, Ranges.contains, blankRanges]
  omega

theorem trimLeft_of_digits {cs : List Char} (h : ∀ c ∈ cs, c.isDigit = true) : trimLeft cs = cs := by
  cases cs with
  | nil => rfl
  | cons c rest => rw [trimLeft, List.dropWhile_cons_of_neg (by simp [isBlank_of_isDigit (h c List.mem_cons_self)])]

theorem trim_of_digits {cs : List Char} (h : ∀ c ∈ cs, c.isDigit = true) : trim cs = cs := by
  rw [trim, trimLeft_of_digits h, trimLeft_of_digits fun c hc => h c (List.mem_reverse.mp hc), List.reverse_reverse]

theorem asciiDigits_of_digits {cs : List Char} (h : ∀ c ∈ cs, c.isDigit = true) : asciiDigits cs = cs := by
  rw [asciiDigits, List.map_congr_left (g := id), List.map_id]
  intro c hc
  obtain ⟨hlow, -⟩ := isDigit_bounds (h c hc)
  simp only [digitValue?_of_isDigit (h c hc), id]
  rw [show 48 + (c.toNat - 48) = c.toNat by omega, Char.ofNat_toNat]

theorem dropUnderscores_of_digits {cs : List Char} (h : ∀ c ∈ cs, c.isDigit = true) : dropUnderscores cs = some cs := by
  have hdigit : '_'.isDigit = false := by decide
  induction cs using dropUnderscores.induct with
  | case1 => rfl
  | case2 rest => exact absurd (h '_' List.mem_cons_self) (by simp [hdigit])
  | case3 c hc => simp [dropUnderscores]
  | case4 c d rest hboth hc ih => exact absurd (h '_' (by simp)) (by simp [hdigit])
  | case5 c d rest hboth hc => exact absurd (h '_' (by simp)) (by simp [hdigit])
  | case6 c rest h1 h2 h3 ih =>
    rw [dropUnderscores, ih fun d hd => h d (List.mem_cons_of_mem _ hd)] <;> simp_all

theorem spanSign_of_digits {cs : List Char} (h : ∀ c ∈ cs, c.isDigit = true) : spanSign cs = (false, cs) := by
  unfold spanSign
  split
  · exact absurd (h '-' List.mem_cons_self) (by decide)
  · exact absurd (h '+' List.mem_cons_self) (by decide)
  · rfl

/-- A run of digits that is not too long is read as the number that it stands for. -/
theorem readInt_of_digits {cs : List Char} (hne : cs ≠ []) (h : ∀ c ∈ cs, c.isDigit = true) :
    readInt (String.ofList cs) =
      if cs.length ≤ 4300 then .ok (natOfDigits cs : Int)
      else .error (.error .badValue ("Exceeds the limit (4300 digits) for integer string conversion: value has " ++ toString cs.length ++
        " digits; use sys.set_int_max_str_digits() to increase the limit")) := by
  have hall : cs.filter (fun c => (digitValue? c).isSome) = cs :=
    List.filter_eq_self.mpr fun c hc => by rw [digitValue?_of_isDigit (h c hc)]; rfl
  have hint : int? (String.ofList cs) = some (natOfDigits cs : Int) := by
    have hdigits : cs.all Char.isDigit = true := List.all_eq_true.mpr h
    simp [int?, trim_of_digits h, asciiDigits_of_digits h, spanSign_of_digits h, dropUnderscores_of_digits h, hne, hdigits, Binary.signOf]
  simp only [readInt, hint, tooManyDigits, String.toList_ofList, hall, decide_eq_true_eq]
  split_ifs <;> first | rfl | omega

end Text

/-! ## The authority of a location -/

namespace Uri

/-- The characters of a text that count. -/
def counted (s : String) : List Char := (s.toList.dropWhile isIgnored).filter fun c => !(c == '\t' || c == '\r' || c == '\n')

/-- The authority ends where what follows it begins. -/
def isAuthority (c : Char) : Bool := !(c == '/' || c == '?' || c == '#')

theorem split_eq (s : String) : split s =
    match (spanScheme (counted s)).2 with
    | '/' :: '/' :: rest => do
      checkBrackets (rest.takeWhile isAuthority)
      checkLookalikes (rest.takeWhile isAuthority)
      return { scheme := (spanScheme (counted s)).1, authority := rest.takeWhile isAuthority }
    | _ => return { scheme := (spanScheme (counted s)).1, authority := [] } := rfl

/-- The code points that an authority does not hold: tabs and line breaks, what ends it, and the lookalikes of separators. -/
def foreignCodes : List Nat := [0x9, 0xA, 0xD, 0x23, 0x2F, 0x3F] ++ separatorLookalikes

theorem mem_delicateCodes {n : Nat} (h : n ∈ foreignCodes) : n ∈ Text.delicateCodes := by
  revert n
  decide

theorem not_mem_foreignCodes (n : Nat) (h : 48 ≤ n ∧ n ≤ 57) : n ∉ foreignCodes := by
  have hall : ∀ m ∈ foreignCodes, m < 48 ∨ 57 < m := by decide
  intro hn
  have := hall n hn
  omega

/-- The text in front of an authority is its scheme in any letter case, and an authority holds nothing foreign. -/
structure Apart (s : String) (u : Uri) : Prop where
  scheme : u.scheme = "" ∨ ∃ front rest, counted s = front ++ ':' :: rest ∧ u.scheme = String.ofList (front.map Char.toLower)
  own : ∀ c ∈ u.authority, c.toNat ∉ foreignCodes

theorem spanScheme_cases (cs : List Char) :
    (spanScheme cs).1 = "" ∨ ∃ front rest, cs = front ++ ':' :: rest ∧ (spanScheme cs).1 = String.ofList (front.map Char.toLower) := by
  unfold spanScheme
  dsimp only
  split
  · rename_i rest c front hrest hfront
    split_ifs
    · refine .inr ⟨cs.takeWhile (· != ':'), rest, ?_, rfl⟩
      rw [← hrest, List.takeWhile_append_dropWhile]
    · exact .inl rfl
  · exact .inl rfl

theorem not_lookalike {authority : List Char} {r : Unit} (h : checkLookalikes authority = .ok r) {c : Char} (hc : c ∈ authority) :
    c.toNat ∉ separatorLookalikes := by
  intro hmem
  unfold checkLookalikes at h
  split_ifs at h with hany
  exact hany (List.any_eq_true.mpr ⟨c, hc, List.contains_iff_mem.mpr hmem⟩)

theorem split_eq_ok {s : String} {u : Uri} (h : split s = .ok u) : Apart s u := by
  have hscheme := spanScheme_cases (counted s)
  rw [split_eq] at h
  split at h
  · rename_i rest hrest
    cases hbrackets : checkBrackets (rest.takeWhile isAuthority) with
    | error e => rw [hbrackets] at h; cases h
    | ok _ =>
      rw [hbrackets] at h
      cases hlook : checkLookalikes (rest.takeWhile isAuthority) with
      | error e => rw [hlook] at h; cases h
      | ok _ =>
        rw [hlook] at h
        cases h
        refine ⟨hscheme, fun c hc hforeign => ?_⟩
        have hcounted : c ∈ counted s :=
          mem_of_mem_spanScheme (hrest ▸ List.mem_cons_of_mem _ (List.mem_cons_of_mem _ ((List.takeWhile_sublist _).subset hc)))
        have hmiddle := (List.mem_filter.mp hcounted).2
        have hend := List.mem_takeWhile_imp hc
        rcases List.mem_append.mp hforeign with hforeign | hforeign
        · have hc : c = Char.ofNat c.toNat := (Char.ofNat_toNat c).symm
          simp only [List.mem_cons, List.not_mem_nil, or_false] at hforeign
          rcases hforeign with hn | hn | hn | hn | hn | hn <;> rw [hn] at hc <;> subst hc <;> revert hmiddle hend <;> decide
        · exact not_lookalike hlook hc hforeign
  · cases h
    exact ⟨hscheme, fun c hc => absurd hc List.not_mem_nil⟩

/-! ## Host and port -/

theorem mem_of_mem_spanAt {mark c : Char} {cs : List Char} (h : c ∈ (spanAt mark cs).1 ∨ c ∈ (spanAt mark cs).2) : c ∈ cs := by
  rcases h with h | h
  · exact (List.takeWhile_sublist _).subset h
  · exact (List.dropWhile_sublist _).subset (List.mem_of_mem_drop h)

theorem not_mem_spanAt (mark : Char) (cs : List Char) : mark ∉ (spanAt mark cs).1 := fun h => by
  simpa using List.mem_takeWhile_imp h

theorem mem_of_mem_afterLast {mark c : Char} {cs : List Char} (h : c ∈ afterLast mark cs) : c ∈ cs ∧ c ≠ mark := by
  have h' := List.mem_reverse.mp h
  exact ⟨List.mem_reverse.mp ((List.takeWhile_sublist _).subset h'), by simpa using List.mem_takeWhile_imp h'⟩

theorem afterLast_of_not_mem {mark : Char} {cs : List Char} (h : mark ∉ cs) : afterLast mark cs = cs := by
  rw [afterLast, List.takeWhile_eq_self_iff.mpr, List.reverse_reverse]
  intro c hc
  simpa using fun heq : c = mark => h (heq ▸ List.mem_reverse.mp hc)

theorem spanAt_append {mark : Char} {cs : List Char} (h : mark ∉ cs) (rest : List Char) : spanAt mark (cs ++ mark :: rest) = (cs, rest) := by
  have hall : ∀ c ∈ cs, (c != mark) = true := fun c hc => by simpa using fun heq : c = mark => h (heq ▸ hc)
  rw [spanAt, List.takeWhile_append_of_pos hall, List.dropWhile_append_of_pos hall]
  simp

variable {u : Uri} {c : Char}

theorem mem_of_mem_place (h : c ∈ u.place.1) : c ∈ u.authority ∧ c ≠ '@' := by
  unfold place at h
  dsimp only at h
  split at h
  · exact mem_of_mem_afterLast (mem_of_mem_spanAt (.inr (mem_of_mem_spanAt (.inl h))))
  · exact mem_of_mem_afterLast (mem_of_mem_spanAt (.inl h))

/-- A host holds brackets of one kind at most. -/
theorem bracket_of_place : '[' ∉ u.place.1 ∨ ']' ∉ u.place.1 := by
  unfold place
  dsimp only
  split
  · exact .inr (not_mem_spanAt ']' _)
  · rename_i hbracket
    exact .inl fun h => hbracket (List.contains_iff_mem.mpr (mem_of_mem_spanAt (.inl h)))

theorem toList_host (u : Uri) :
    u.host.toList = Text.lowerFrom [] (u.place.1.takeWhile (· != '%')) ++ u.place.1.dropWhile (· != '%') := by
  simp [host, Text.lower]

/-- What means something in a host was written. -/
theorem mem_place_of_mem_host (hc : c.toNat ∈ Text.delicateCodes) (h : c ∈ u.host.toList) : c ∈ u.place.1 := by
  rw [toList_host] at h
  rcases List.mem_append.mp h with h | h
  · exact (List.takeWhile_sublist _).subset (Text.mem_lowerFrom_of_delicate hc h)
  · exact (List.dropWhile_sublist _).subset h

theorem bracket_of_host (u : Uri) : '[' ∉ u.host.toList ∨ ']' ∉ u.host.toList :=
  (bracket_of_place (u := u)).imp (mt (mem_place_of_mem_host (by decide))) (mt (mem_place_of_mem_host (by decide)))

/-- A host that is written in small letters is read as it is. -/
theorem host_of_place {u' : Uri} (h : u'.place.1 = u.host.toList) : u'.host = u.host := by
  have hname : ∀ c ∈ Text.lowerFrom [] (u.place.1.takeWhile (· != '%')), (c != '%') = true := fun c hc => by
    refine bne_iff_ne.mpr fun heq => ?_
    subst heq
    simpa using List.mem_takeWhile_imp (Text.mem_lowerFrom_of_delicate (by decide) hc)
  have hzone : (u.place.1.dropWhile (· != '%')).takeWhile (· != '%') = [] ∧
      (u.place.1.dropWhile (· != '%')).dropWhile (· != '%') = u.place.1.dropWhile (· != '%') := by
    cases hdrop : u.place.1.dropWhile (· != '%') with
    | nil => exact ⟨rfl, rfl⟩
    | cons c rest =>
      have hc := List.head?_dropWhile_not (· != '%') u.place.1
      rw [hdrop] at hc
      simp only [List.head?_cons] at hc
      simp [hc]
  rw [← String.toList_inj, toList_host u', h, toList_host u, List.takeWhile_append_of_pos hname, List.dropWhile_append_of_pos hname, hzone.1,
    hzone.2, List.append_nil, Text.lowerFrom_of_isSmall [] fun c hc => Text.isSmall_of_mem_lowerFrom hc]

/-- **The port that is written** is a run of digits, and one that is small enough; nothing at all is none. -/
theorem port_eq_ok {port : Option Nat} (h : u.port = .ok port) :
    (∀ c ∈ u.place.2, c.isDigit = true) ∧ natOfDigits u.place.2 ≤ 65535 ∧
      port = if u.place.2 = [] then none else some (natOfDigits u.place.2) := by
  unfold Uri.port at h
  dsimp only at h
  split_ifs at h with hempty hdigits
  · cases h
    have hnil := List.isEmpty_iff.mp hempty
    rw [hnil]
    exact ⟨fun c hc => absurd hc List.not_mem_nil, Nat.zero_le _, (if_pos rfl).symm⟩
  · have hne : u.place.2 ≠ [] := fun hnil => hempty (List.isEmpty_iff.mpr hnil)
    have hall := List.all_eq_true.mp hdigits
    rw [Text.readInt_of_digits hne hall] at h
    split_ifs at h with hlength
    · simp only [bind, Except.bind] at h
      split_ifs at h with hle
      · cases h
        exact ⟨hall, by omega, by rw [if_neg hne, Int.toNat_natCast]⟩
    · cases h

/-- A run of digits behind the host is the port. -/
theorem port_of_digits {n : Nat} (hn : n ≤ 65535) (h : u.place.2 = Nat.toDigits 10 n) : u.port = .ok (some n) := by
  have hall : ∀ c ∈ u.place.2, c.isDigit = true := fun c hc => Json.toDigits_digit (h ▸ hc)
  have hne : u.place.2 ≠ [] := h ▸ Nat.toDigits_ne_nil
  have hlength : u.place.2.length ≤ 4300 := by
    rw [h]
    exact ((Nat.length_toDigits_le_iff (by decide) (by decide)).mpr (by omega : n < 10 ^ 5)).trans (by decide)
  rw [Uri.port, if_neg (by simpa using hne), if_pos (List.all_eq_true.mpr hall), Text.readInt_of_digits hne hall, if_pos hlength, h, Json.natOfDigits_toDigits]
  simp only [bind, Except.bind]
  rw [if_pos (by omega)]
  rfl

/-- The complaint about what is no port. -/
def notAPort (cs : List Char) : Fault := .error .badValue ("Port could not be cast to integer value as " ++ Text.quoted (String.ofList cs))

/-- What holds a colon is no port. -/
theorem port_of_colon (h : ':' ∈ u.place.2) : u.port = .error (notAPort u.place.2) := by
  rw [Uri.port, if_neg (by simpa using List.ne_nil_of_mem h), if_neg fun hall => ?_, notAPort]
  exact absurd (List.all_eq_true.mp hall ':' h) (by decide)

/-! ## Printed locations -/

/-- **The printed form of a place** comes apart into its transport and the place, if the brackets of the place are right. -/
theorem split_printed {scheme : String} {tls : Bool} (hs : (scheme, tls) ∈ Location.schemes) {place : List Char}
    (h : ∀ c ∈ place, c.toNat ∉ foreignCodes) :
    split (scheme ++ "://" ++ String.ofList place) = (checkBrackets place).map fun _ => { scheme := scheme, authority := place } := by
  have hown (m : Char) (hm : m.toNat ∈ foreignCodes) : ∀ c ∈ place, (c == m) = false := fun c hc =>
    beq_false_of_ne fun heq => h c hc (heq ▸ hm)
  have hfilter : (place.filter fun c => !(c == '\t' || c == '\r' || c == '\n')) = place := List.filter_eq_self.mpr fun c hc => by
    simp [hown '\t' (by decide) c hc, hown '\r' (by decide) c hc, hown '\n' (by decide) c hc]
  have hend : place.takeWhile isAuthority = place := List.takeWhile_eq_self_iff.mpr fun c hc => by
    simp [isAuthority, hown '/' (by decide) c hc, hown '?' (by decide) c hc, hown '#' (by decide) c hc]
  have hlook : checkLookalikes place = .ok () := by
    refine if_neg fun hany => ?_
    obtain ⟨c, hc, hmem⟩ := List.any_eq_true.mp hany
    exact h c hc (List.mem_append_right _ (List.contains_iff_mem.mp hmem))
  have hcounted : counted (scheme ++ "://" ++ String.ofList place) = scheme.toList ++ ':' :: '/' :: '/' :: place := by
    rw [counted, String.toList_append, String.toList_append, String.toList_ofList (l := place)]
    simp only [Location.schemes, List.mem_cons, List.not_mem_nil, or_false, Prod.mk.injEq] at hs
    rcases hs with ⟨rfl, -⟩ | ⟨rfl, -⟩
    · exact congrArg ("grpc://".toList ++ ·) hfilter
    · exact congrArg ("grpcs://".toList ++ ·) hfilter
  have hspan : spanScheme (scheme.toList ++ ':' :: '/' :: '/' :: place) = (scheme, '/' :: '/' :: place) := by
    simp only [Location.schemes, List.mem_cons, List.not_mem_nil, or_false, Prod.mk.injEq] at hs
    rcases hs with ⟨rfl, -⟩ | ⟨rfl, -⟩ <;> rfl
  rw [split_eq]
  simp only [hcounted, hspan, hend, hlook]
  cases checkBrackets place <;> rfl

end Uri

/-! ## What the text of a location denotes -/

namespace Location

/-- The text of a place. -/
def printed (l : Location) : String := l.scheme ++ "://" ++ l.target

/-- What is read is what the text comes apart into. -/
theorem read_eq_ok {s shown : String} {l : Location} (h : read s shown = .ok l) :
    ∃ u port, Uri.split s = .ok u ∧ u.port = .ok port ∧ (l.scheme, l.tls) ∈ schemes ∧ l.scheme = u.scheme ∧ l.host = u.host ∧
      l.port = if port.getD 0 = 0 then defaultPort else port.getD 0 := by
  unfold read at h
  cases hsplit : Uri.split s with
  | error e => rw [hsplit] at h; cases h
  | ok u =>
    rw [hsplit] at h
    simp only [bind, Except.bind] at h
    cases hscheme : schemes.lookup u.scheme with
    | none => rw [hscheme] at h; cases h
    | some tls =>
      rw [hscheme] at h
      cases hport : u.port with
      | error e => rw [hport] at h; cases h
      | ok port =>
        rw [hport] at h
        dsimp only at h
        have hknown : (u.scheme, tls) ∈ schemes := by
          obtain ⟨front, back, hfound, -⟩ := List.lookup_eq_some_iff.mp hscheme
          rw [hfound]
          exact List.mem_append_right _ List.mem_cons_self
        split at h
        · cases h
        · cases h
          exact ⟨u, port, rfl, hport, hknown, rfl, rfl, by simp⟩

variable {l : Location} {u : Uri}

theorem toList_toString (n : Nat) : (toString n).toList = Nat.toDigits 10 n := by
  rw [show toString n = n.repr from rfl, Nat.repr_eq_ofList_toDigits, String.toList_ofList]

/-- The address of a place holds nothing that an authority does not. -/
theorem target_own (hown : ∀ c ∈ u.authority, c.toNat ∉ Uri.foreignCodes) (hhost : l.host = u.host) :
    ∀ c ∈ l.target.toList, c.toNat ∉ Uri.foreignCodes := by
  intro c hc hforeign
  simp only [target, String.toList_append, List.mem_append] at hc
  rcases hc with (hc | hc) | hc
  · exact hown c (Uri.mem_of_mem_place (Uri.mem_place_of_mem_host (Uri.mem_delicateCodes hforeign) (hhost ▸ hc))).1 hforeign
  · obtain rfl : c = ':' := List.mem_singleton.mp hc
    exact absurd hforeign (by decide)
  · rw [toList_toString] at hc
    obtain ⟨hlow, hhigh⟩ := Text.isDigit_bounds (Json.toDigits_digit hc)
    exact absurd hforeign (Uri.not_mem_foreignCodes c.toNat ⟨hlow, hhigh⟩)

theorem ofData_printed (l : Location) : ofData (.str l.printed) = read l.printed (Data.str l.printed).expression := WorkerConfig.ofData_text _

/-- What the address of a place comes apart into. -/
theorem split_printed (hscheme : (l.scheme, l.tls) ∈ schemes) (hown : ∀ c ∈ l.target.toList, c.toNat ∉ Uri.foreignCodes) :
    Uri.split l.printed = (Uri.checkBrackets l.target.toList).map fun _ => { scheme := l.scheme, authority := l.target.toList } := by
  have h := Uri.split_printed hscheme hown
  rwa [String.ofList_toList] at h

/-- **How the address of a place is read again**, behind its transport. -/
structure ReadAgain (l : Location) : Prop where
  same : ofData (.str l.printed) = .ok l ↔ ∀ c ∈ l.host.toList, c ≠ ':' ∧ c ≠ '[' ∧ c ≠ ']'
  /-- what follows the first colon is no port -/
  colon : ':' ∈ l.host.toList → '[' ∉ l.host.toList → ']' ∉ l.host.toList → ofData (.str l.printed) =
    configurationError ("invalid port in " ++ (Data.str l.printed).expression ++ ": " ++ (Uri.notAPort (Uri.spanAt ':' l.target.toList).2).message)
  bracket : '[' ∈ l.host.toList ∨ ']' ∈ l.host.toList → ofData (.str l.printed) = .error (.error .badValue "Invalid IPv6 URL")

/-- The place behind the transport of a printed location. -/
def printedUri (l : Location) : Uri := { scheme := l.scheme, authority := l.target.toList }

theorem toList_target (l : Location) : l.target.toList = l.host.toList ++ ':' :: Nat.toDigits 10 l.port := by
  rw [target, String.toList_append, String.toList_append, toList_toString, List.append_assoc]
  rfl

theorem not_mem_target {c : Char} (hc : c ≠ ':' ∧ c.isDigit = false) (h : c ∉ l.host.toList) : c ∉ l.target.toList := by
  rw [toList_target, List.mem_append, List.mem_cons, not_or, not_or]
  exact ⟨h, hc.1, fun hmem => by simpa [hc.2] using Json.toDigits_digit hmem⟩

/-- Without brackets the host of an address ends at its first colon. -/
theorem place_printedUri (hat : '@' ∉ l.host.toList) (hopen : '[' ∉ l.host.toList) : l.printedUri.place = Uri.spanAt ':' l.target.toList := by
  have hlast : Uri.afterLast '@' l.target.toList = l.target.toList := Uri.afterLast_of_not_mem (not_mem_target (by decide) hat)
  rw [Uri.place, printedUri]
  dsimp only
  rw [hlast, if_neg fun h => not_mem_target (by decide) hopen (List.contains_iff_mem.mp h)]

theorem contains_eq_false {c : Char} {cs : List Char} (h : c ∉ cs) : cs.contains c = false := by simpa using h

theorem checkBrackets_target (hopen : '[' ∉ l.host.toList) (hclose : ']' ∉ l.host.toList) : Uri.checkBrackets l.target.toList = .ok () := by
  rw [Uri.checkBrackets, contains_eq_false (not_mem_target (by decide) hopen),
    contains_eq_false (not_mem_target (by decide) hclose)]

theorem checkBrackets_target_error (h : '[' ∈ l.host.toList ∧ ']' ∉ l.host.toList ∨ '[' ∉ l.host.toList ∧ ']' ∈ l.host.toList) :
    Uri.checkBrackets l.target.toList = Uri.badBrackets := by
  have hin {c : Char} (hc : c ∈ l.host.toList) : l.target.toList.contains c = true :=
    List.contains_iff_mem.mpr (toList_target l ▸ List.mem_append_left _ hc)
  rcases h with ⟨hopen, hclose⟩ | ⟨hopen, hclose⟩
  · rw [Uri.checkBrackets, hin hopen, contains_eq_false (not_mem_target (by decide) hclose)]
  · rw [Uri.checkBrackets, hin hclose, contains_eq_false (not_mem_target (by decide) hopen)]

theorem lookup_of_mem {scheme : String} {tls : Bool} (h : (scheme, tls) ∈ schemes) : schemes.lookup scheme = some tls := by
  simp only [schemes, List.mem_cons, List.not_mem_nil, or_false, Prod.mk.injEq] at h
  rcases h with ⟨rfl, rfl⟩ | ⟨rfl, rfl⟩ <;> rfl

/-- Without a colon and brackets the host is read again as it is. -/
theorem read_printed (husable : l.Usable) (hsplit : Uri.split l.printed = .ok l.printedUri) (hhost : l.host = u.host)
    (hplace : l.printedUri.place = (l.host.toList, Nat.toDigits 10 l.port)) (shown : String) : read l.printed shown = .ok l := by
  obtain ⟨scheme, host, port, tls⟩ := l
  have hport : (printedUri ⟨scheme, host, port, tls⟩).port = .ok (some port) := Uri.port_of_digits husable.port.2 (by rw [hplace])
  have hsame : (printedUri ⟨scheme, host, port, tls⟩).host = host := by
    rw [Uri.host_of_place (u := u) (by rw [hplace, ← hhost]), ← hhost]
  have hknown : schemes.lookup scheme = some tls := lookup_of_mem husable.transport
  have hsome : host.toList.isEmpty = false := List.isEmpty_eq_false_iff.mpr fun hnil => husable.host (String.toList_inj.mp hnil)
  have hzero : (port == 0) = false := by simpa using husable.port.1.ne'
  rw [read, hsplit]
  simp only [bind, Except.bind, show (printedUri ⟨scheme, host, port, tls⟩).scheme = scheme from rfl, hknown, hport, hplace, hsome, hsame, Option.getD_some,
    hzero, Bool.false_eq_true, if_false]
  rfl

/-- What is behind the first colon of an address with two is no port. -/
theorem read_printed_colon (hknown : (l.scheme, l.tls) ∈ schemes) (hsplit : Uri.split l.printed = .ok l.printedUri)
    (hplace : l.printedUri.place = Uri.spanAt ':' l.target.toList) (hcolon : ':' ∈ l.host.toList) (shown : String) :
    read l.printed shown =
      configurationError ("invalid port in " ++ shown ++ ": " ++ (Uri.notAPort (Uri.spanAt ':' l.target.toList).2).message) := by
  obtain ⟨front, back, hfront, hfirst⟩ := List.eq_append_cons_of_mem hcolon
  have hspan : Uri.spanAt ':' l.target.toList = (front, back ++ ':' :: Nat.toDigits 10 l.port) := by
    rw [toList_target, hfront, List.append_assoc, List.cons_append, Uri.spanAt_append hfirst]
  have hbehind : ':' ∈ l.printedUri.place.2 := by
    rw [hplace, hspan]
    exact List.mem_append_right _ List.mem_cons_self
  have hlookup : schemes.lookup l.scheme = some l.tls := lookup_of_mem hknown
  rw [read, hsplit]
  simp only [bind, Except.bind, show l.printedUri.scheme = l.scheme from rfl, hlookup, Uri.port_of_colon hbehind, hplace]

theorem readAgain (husable : l.Usable) (hown : ∀ c ∈ u.authority, c.toNat ∉ Uri.foreignCodes) (hhost : l.host = u.host) : l.ReadAgain := by
  have hat : '@' ∉ l.host.toList := fun h =>
    (Uri.mem_of_mem_place (Uri.mem_place_of_mem_host (by decide) (hhost ▸ h))).2 rfl
  have hsplit := split_printed husable.transport (target_own hown hhost)
  have hbracket : '[' ∈ l.host.toList ∨ ']' ∈ l.host.toList → ofData (.str l.printed) = .error (.error .badValue "Invalid IPv6 URL") := fun h => by
    have hone : '[' ∈ l.host.toList ∧ ']' ∉ l.host.toList ∨ '[' ∉ l.host.toList ∧ ']' ∈ l.host.toList := by
      have hkind := Uri.bracket_of_host u
      rw [← hhost] at hkind
      tauto
    rw [checkBrackets_target_error hone] at hsplit
    rw [ofData_printed, read_eq_error hsplit]
  have hcolon : ':' ∈ l.host.toList → '[' ∉ l.host.toList → ']' ∉ l.host.toList → ofData (.str l.printed) =
      configurationError ("invalid port in " ++ (Data.str l.printed).expression ++ ": " ++
        (Uri.notAPort (Uri.spanAt ':' l.target.toList).2).message) := fun hcolon hopen hclose => by
    rw [checkBrackets_target hopen hclose] at hsplit
    rw [ofData_printed, read_printed_colon husable.transport hsplit (place_printedUri hat hopen) hcolon]
  refine ⟨⟨fun hsame => ?_, fun hplain => ?_⟩, hcolon, hbracket⟩
  · -- a colon or a bracket would be refused
    have hopen : '[' ∉ l.host.toList := fun h => by rw [hbracket (.inl h)] at hsame; cases hsame
    have hclose : ']' ∉ l.host.toList := fun h => by rw [hbracket (.inr h)] at hsame; cases hsame
    have hnone : ':' ∉ l.host.toList := fun h => by rw [hcolon h hopen hclose] at hsame; cases hsame
    exact fun c hc => ⟨fun heq => hnone (heq ▸ hc), fun heq => hopen (heq ▸ hc), fun heq => hclose (heq ▸ hc)⟩
  · have hopen : '[' ∉ l.host.toList := fun h => (hplain _ h).2.1 rfl
    have hclose : ']' ∉ l.host.toList := fun h => (hplain _ h).2.2 rfl
    have hnone : ':' ∉ l.host.toList := fun h => (hplain _ h).1 rfl
    rw [checkBrackets_target hopen hclose] at hsplit
    rw [ofData_printed]
    refine read_printed husable hsplit hhost ?_ _
    rw [place_printedUri hat hopen, toList_target, Uri.spanAt_append hnone]

theorem usable_of_ofData {s : String} (h : ofData (.str s) = .ok l) : l.Usable := by
  rw [WorkerConfig.ofData_text] at h
  rcases read_cases s (Data.str s).expression with ⟨l', hread, husable⟩ | ⟨m, hread⟩ | ⟨e, -, hread⟩ <;> rw [hread] at h <;> cases h
  exact husable

/-- **What the text of a location denotes, and how its address is read again.** The transport is what stands before the first colon, in small letters, and only
one of the two is encrypted. The port is the number that is written, but 0 counts for as little as none. The address is read as the same place exactly when its
host holds neither a colon nor brackets; else it is refused. -/
theorem locations_denote_what_is_written (s : String) (l : Location) (h : ofData (.str s) = .ok l) :
    ∃ u, Uri.split s = .ok u ∧
      -- the transport
      (∃ front rest, Uri.counted s = front ++ ':' :: rest ∧ l.scheme = String.ofList (front.map Char.toLower)) ∧
      (l.tls = true ↔ l.scheme = "grpcs") ∧ (l.tls = false ↔ l.scheme = "grpc") ∧
      -- the port: none and zero are the same
      (∀ c ∈ u.place.2, c.isDigit = true) ∧ natOfDigits u.place.2 ≤ 65535 ∧
      l.port = (if natOfDigits u.place.2 = 0 then defaultPort else natOfDigits u.place.2) ∧
      -- the address
      l.host = u.host ∧ l.ReadAgain := by
  have husable := usable_of_ofData h
  rw [WorkerConfig.ofData_text] at h
  obtain ⟨u, port, hsplit, hport, hknown, hscheme, hhost, hl⟩ := read_eq_ok h
  have hapart := Uri.split_eq_ok hsplit
  obtain ⟨hdigits, hsmall, rfl⟩ := Uri.port_eq_ok hport
  have hwritten : (if u.place.2 = [] then none else some (natOfDigits u.place.2)).getD 0 = natOfDigits u.place.2 := by
    split_ifs with hnil
    · rw [hnil]; rfl
    · rfl
  rw [hwritten] at hl
  simp only [schemes, List.mem_cons, List.not_mem_nil, or_false, Prod.mk.injEq] at hknown
  refine ⟨u, hsplit, ?_, ?_, ?_, hdigits, hsmall, hl, hhost, readAgain husable hapart.own hhost⟩
  · rcases hapart.scheme with hempty | hfront
    · rcases hknown with ⟨hname, -⟩ | ⟨hname, -⟩ <;> rw [hscheme, hempty] at hname <;> simp at hname
    · rwa [hscheme]
  · rcases hknown with ⟨hname, htls⟩ | ⟨hname, htls⟩ <;> simp [hname, htls]
  · rcases hknown with ⟨hname, htls⟩ | ⟨hname, htls⟩ <;> simp [hname, htls]

theorem locations_denote_what_is_written_grpcs :
    ofData (.str " GRPCS://me@Host.Example:0/x") = .ok ⟨"grpcs", "host.example", 7233, true⟩ ∧ ∃ u, Uri.split " GRPCS://me@Host.Example:0/x" = .ok u ∧
      natOfDigits u.place.2 = 0 ∧ "host.example" = u.host ∧ ReadAgain ⟨"grpcs", "host.example", 7233, true⟩ := by
  have hread : ofData (.str " GRPCS://me@Host.Example:0/x") = .ok ⟨"grpcs", "host.example", 7233, true⟩ :=
    WorkerConfig.eq_ok_of_toOption (by decide +kernel)
  obtain ⟨u, hsplit, -, -, -, -, hsmall, hport, hhost, hagain⟩ := locations_denote_what_is_written _ _ hread
  have hu : Uri.split " GRPCS://me@Host.Example:0/x" = .ok ⟨"grpcs", "me@Host.Example:0".toList⟩ :=
    WorkerConfig.eq_ok_of_toOption (by decide +kernel)
  cases hu.symm.trans hsplit
  exact ⟨hread, _, hu, by decide +kernel, hhost, hagain⟩

/-- A port of 0 that is written becomes the default port, and the address of an IPv6 host in brackets is refused. -/
theorem port_zero_and_brackets_are_lost :
    ofData (.str "grpc://h:0") = .ok ⟨"grpc", "h", 7233, false⟩ ∧
      ∃ l, ofData (.str "grpc://[::1]:7233") = .ok l ∧ l.target = "::1:7233" ∧ ofData (.str l.printed) =
        .error (.error .configuration "invalid port in 'grpc://::1:7233': Port could not be cast to integer value as ':1:7233'") :=
  ⟨WorkerConfig.eq_ok_of_toOption (by decide +kernel), ⟨"grpc", "::1", 7233, false⟩, WorkerConfig.eq_ok_of_toOption (by decide +kernel),
    by decide +kernel, by cbv⟩

end Location

end ScriptFlow
