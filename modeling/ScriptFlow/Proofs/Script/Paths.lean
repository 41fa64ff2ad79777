import Mathlib
import ScriptFlow.Script.Environment

/-!
# Where paths lead

A path is read from left to right as a walk from the root. Its normal form is the place where the walk ends, written with one slash in front of each name on the way.

* `ScriptPath.resolve` — where a walk along components ends; `ScriptPath.Plain` — a name on the way.
* `ScriptPath.normalForm_eq` — **the normal form writes where the walk ends**, and `ScriptPath.resolve_normalForm` — reading it ends there again.
* `ScriptPath.normalForm_eq_iff` — **two paths have one normal form exactly if their walks end in one place**.
* `ScriptPath.normal_normalForm` — what a normal form looks like.
* `ScriptPath.ofData_spells` — the name of a script is a normal form; `ScriptPath.ofData_normal` — a name of a script names it.
-/

namespace ScriptFlow.ScriptPath

/-! ## Walks -/

/-- One step of a walk, which is at the place with these names from the root. -/
def follow (place : List (List Nat)) (part : List Nat) : List (List Nat) :=
  if part = [] ∨ part = [dot] then place
  else if part = [dot, dot] then place.dropLast
  else place ++ [part]

/-- The place where a walk from the root along components ends. -/
def resolve (parts : List (List Nat)) : List (List Nat) := parts.foldl follow []

/-- The name of something that stands below. -/
structure Plain (part : List Nat) : Prop where
  slash : slash ∉ part
  empty : part ≠ []
  here : part ≠ [dot]
  up : part ≠ [dot, dot]

theorem Plain.follow {part : List Nat} (h : Plain part) (place : List (List Nat)) : follow place part = place ++ [part] := by
  have hhere : ¬(part = [] ∨ part = [dot]) := fun hhere => hhere.elim h.empty h.here
  rw [ScriptPath.follow, if_neg hhere, if_neg h.up]

theorem plain_follow {place : List (List Nat)} {part : List Nat} (hplace : ∀ p ∈ place, Plain p) (hslash : slash ∉ part) :
    ∀ p ∈ follow place part, Plain p := by
  intro p hp
  unfold follow at hp
  split at hp
  · exact hplace p hp
  · next hhere =>
    split at hp
    · exact hplace p (List.dropLast_subset _ hp)
    · next hup =>
      rcases List.mem_append.mp hp with hp | hp
      · exact hplace p hp
      · obtain rfl := List.mem_singleton.mp hp
        exact ⟨hslash, fun h => hhere (.inl h), fun h => hhere (.inr h), hup⟩

theorem plain_foldl {parts place : List (List Nat)} (hplace : ∀ p ∈ place, Plain p) (hparts : ∀ p ∈ parts, slash ∉ p) :
    ∀ p ∈ parts.foldl follow place, Plain p := by
  induction parts generalizing place with
  | nil => exact hplace
  | cons part parts ih => exact ih (plain_follow hplace (hparts part (.head _))) fun p hp => hparts p (.tail _ hp)

theorem slash_not_mem {cs part : List Nat} (h : part ∈ components cs) : slash ∉ part := by
  induction cs generalizing part with
  | nil =>
    obtain rfl := List.mem_singleton.mp h
    exact List.not_mem_nil
  | cons c cs ih =>
    unfold components at h ih
    rw [List.splitOn_cons_eq_if_modifyHead] at h
    split at h
    · rcases List.mem_cons.mp h with rfl | h
      · exact List.not_mem_nil
      · exact ih h
    · next hc =>
      obtain ⟨head, rest, hsplit⟩ := List.exists_cons_of_ne_nil (List.splitOn_ne_nil slash cs)
      rw [hsplit] at h ih
      rcases List.mem_cons.mp h with rfl | h
      · have hne : slash ≠ c := fun heq => hc (beq_iff_eq.mpr heq.symm)
        exact fun hmem => (List.mem_cons.mp hmem).elim hne (ih (.head _))
      · exact ih (.tail _ h)

/-- **A walk ends below the root**, and only names lie on the way there. -/
theorem plain_of_mem_resolve {cs part : List Nat} (h : part ∈ resolve (components cs)) : Plain part :=
  plain_foldl (List.forall_mem_nil _) (fun _ => slash_not_mem) part h

theorem foldl_follow_plain {parts : List (List Nat)} (h : ∀ p ∈ parts, Plain p) (place : List (List Nat)) :
    parts.foldl follow place = place ++ parts := by
  induction parts generalizing place with
  | nil => exact (List.append_nil _).symm
  | cons part parts ih =>
    rw [List.foldl_cons, (h part (.head _)).follow, ih fun p hp => h p (.tail _ hp), List.append_assoc]
    rfl

/-- A walk along names ends where they say. -/
theorem resolve_plain {parts : List (List Nat)} (h : ∀ p ∈ parts, Plain p) : resolve parts = parts :=
  foldl_follow_plain h []

/-! ## Slashes in front -/

theorem components_slash (cs : List Nat) : components (slash :: cs) = [] :: components cs := by
  simp [components, List.splitOn_cons_eq_if_modifyHead]

theorem resolve_empty (parts : List (List Nat)) : resolve ([] :: parts) = resolve parts := rfl

theorem resolve_components_dropWhile (cs : List Nat) : resolve (components (cs.dropWhile (· == slash))) = resolve (components cs) := by
  induction cs with
  | nil => rfl
  | cons c cs ih =>
    by_cases hc : c = slash
    · have hslash : (c == slash) = true := beq_iff_eq.mpr hc
      rw [List.dropWhile_cons, if_pos hslash, ih, hc, components_slash, resolve_empty]
    · have hother : ¬(c == slash) = true := fun h => hc (beq_iff_eq.mp h)
      rw [List.dropWhile_cons, if_neg hother]

theorem rootSlashes_eq_one {cs : List Nat} (h : cs.head? ≠ some slash) : rootSlashes (slash :: cs) = 1 := by
  cases cs with
  | nil => rfl
  | cons c cs =>
    have hc : (c == slash) = false := by simpa using h
    simp [rootSlashes, hc]

theorem head?_dropWhile_slash (cs : List Nat) : (cs.dropWhile (· == slash)).head? ≠ some slash := by
  intro h
  have hnot := List.head?_dropWhile_not (· == slash) cs
  rw [h] at hnot
  exact absurd hnot (by decide)

/-! ## The normal form -/

/-- Components are kept backwards, and below a root none of them goes up. -/
theorem reverse_keep {kept : List (List Nat)} (h : ∀ p ∈ kept, isUp p = false) (part : List Nat) :
    (keep true kept part).reverse = follow kept.reverse part ∧ ∀ p ∈ keep true kept part, isUp p = false := by
  have hhead : kept.head?.any isUp = false := by
    cases kept with
    | nil => rfl
    | cons p kept => exact h p (.head _)
  by_cases hhere : isHere part = true
  · have hempty : part = [] ∨ part = [dot] := by simpa [isHere] using hhere
    rw [keep, if_pos hhere, follow, if_pos hempty]
    exact ⟨rfl, h⟩
  · have hname : ¬(part = [] ∨ part = [dot]) := by simpa [isHere] using hhere
    rw [keep, if_neg hhere, follow, if_neg hname, hhead]
    by_cases hup : part = [dot, dot]
    · subst hup
      refine ⟨?_, fun p hp => h p (List.mem_of_mem_drop hp)⟩
      rw [if_pos rfl, List.dropLast_reverse, ← List.drop_one]
      rfl
    · have hnot : isUp part = false := by simpa [isUp] using hup
      rw [if_neg hup, hnot]
      exact ⟨List.reverse_cons, List.forall_mem_cons.mpr ⟨hnot, h⟩⟩

theorem foldl_keep {kept : List (List Nat)} (h : ∀ p ∈ kept, isUp p = false) (parts : List (List Nat)) :
    (parts.foldl (keep true) kept).reverse = parts.foldl follow kept.reverse := by
  induction parts generalizing kept with
  | nil => rfl
  | cons part parts ih =>
    obtain ⟨hkeep, hups⟩ := reverse_keep h part
    rw [List.foldl_cons, List.foldl_cons, ih hups, hkeep]

/-- **The normal form of a path writes where the walk along it ends.** -/
theorem normalForm_eq (cs : List Nat) : normalForm cs = slash :: [slash].intercalate (resolve (components cs)) := by
  have hslashes := rootSlashes_eq_one (head?_dropWhile_slash cs)
  have hkept : ((components (slash :: cs.dropWhile (· == slash))).foldl (keep true) []).reverse = resolve (components cs) := by
    rw [foldl_keep (List.forall_mem_nil _), components_slash]
    exact resolve_components_dropWhile cs
  simp only [normalForm, normpath, hslashes]
  rw [show ((1 : Nat) != 0) = true from rfl, hkept]
  rfl

theorem normalForm_ne_nil (cs : List Nat) : normalForm cs ≠ [] := by
  rw [normalForm_eq]
  exact List.cons_ne_nil _ _

/-- What stands behind the slash of a normal form are the names that it writes. -/
theorem components_intercalate {parts : List (List Nat)} (h : ∀ p ∈ parts, Plain p) (hne : parts ≠ []) :
    components ([slash].intercalate parts) = parts :=
  List.splitOn_intercalate slash (fun p hp => (h p hp).slash) hne

/-- **Reading a normal form, a walk ends where the path led.** -/
theorem resolve_normalForm (cs : List Nat) : resolve (components (normalForm cs)) = resolve (components cs) := by
  rw [normalForm_eq, components_slash, resolve_empty]
  by_cases hempty : resolve (components cs) = []
  · rw [hempty]
    rfl
  · rw [components_intercalate (fun _ => plain_of_mem_resolve) hempty]
    exact resolve_plain fun _ => plain_of_mem_resolve

/-- **The normal form of a normal form is the same path.** -/
theorem normalForm_normalForm (cs : List Nat) : normalForm (normalForm cs) = normalForm cs := by
  rw [normalForm_eq, resolve_normalForm, ← normalForm_eq]

/-- **Two paths have one normal form exactly if they lead to one place.** -/
theorem normalForm_eq_iff (p q : List Nat) : normalForm p = normalForm q ↔ resolve (components p) = resolve (components q) := by
  constructor
  · intro h
    rw [← resolve_normalForm p, h, resolve_normalForm]
  · intro h
    rw [normalForm_eq, normalForm_eq, h]

/-- A path in normal form. -/
structure Normal (path : List Nat) : Prop where
  /-- there is one slash in front and no second one -/
  root : path.head? = some slash ∧ path.tail.head? ≠ some slash
  /-- behind it stand names, if anything -/
  plain : path = [slash] ∨ ∀ part ∈ components path.tail, Plain part
  /-- none stands at the end -/
  trailing : path = [slash] ∨ path.getLast? ≠ some slash

/-- What is written between slashes ends as its last part does. -/
theorem getLast?_intercalate {parts : List (List Nat)} {part : List Nat} (hpart : part ≠ []) :
    ([slash].intercalate (parts ++ [part])).getLast? = part.getLast? := by
  induction parts with
  | nil => simp [List.intercalate]
  | cons p parts ih =>
    obtain ⟨q, rest, hrest⟩ := List.exists_cons_of_ne_nil (List.concat_ne_nil part parts)
    rw [List.cons_append, hrest, List.intercalate_cons_cons, ← hrest, List.getLast?_append, ih]
    simp [List.getLast?_eq_some_getLast hpart]

theorem head?_intercalate {part : List Nat} {parts : List (List Nat)} (hpart : part ≠ []) :
    ([slash].intercalate (part :: parts)).head? = part.head? := by
  obtain ⟨c, cs, rfl⟩ := List.exists_cons_of_ne_nil hpart
  cases parts with
  | nil => simp [List.intercalate]
  | cons q parts => simp [List.intercalate_cons_cons]

/-- **What a normal form looks like.** -/
theorem normal_normalForm (cs : List Nat) : Normal (normalForm cs) := by
  have hplain : ∀ p ∈ resolve (components cs), Plain p := fun _ => plain_of_mem_resolve
  rw [normalForm_eq]
  generalize resolve (components cs) = parts at hplain
  cases parts with
  | nil => exact ⟨⟨rfl, by simp [List.intercalate]⟩, .inl rfl, .inl rfl⟩
  | cons part parts =>
    have hpart := hplain part (.head _)
    refine ⟨⟨rfl, ?_⟩, .inr ?_, .inr ?_⟩
    · rw [List.tail_cons, head?_intercalate hpart.empty]
      exact fun h => hpart.slash (List.mem_of_head? h)
    · rw [List.tail_cons, components_intercalate hplain (List.cons_ne_nil _ _)]
      exact hplain
    · obtain ⟨before, last, hlast⟩ := (List.eq_nil_or_concat' (part :: parts)).resolve_left (List.cons_ne_nil _ _)
      have hend := hplain last (hlast ▸ List.mem_append_right _ (List.mem_singleton_self last))
      rw [hlast, List.getLast?_cons, getLast?_intercalate hend.empty, List.getLast?_eq_some_getLast hend.empty]
      exact fun h => hend.slash (Option.some.inj h ▸ List.getLast_mem hend.empty)

/-! ## Texts -/

/-- A text has the code points that it is made of. -/
theorem codePoints?_textOf (cs : List Nat) : Json.codePoints? (Json.textOf cs) = some cs := by
  unfold Json.textOf
  split
  · next hvalid =>
    have hchars : ∀ n ∈ cs, (Char.ofNat n).toNat = n := fun n hn => by
      have hn : n.isValidChar := by simpa using List.all_eq_true.mp hvalid n hn
      rw [Char.ofNat, dif_pos hn]
      rfl
    have hlist : (cs.map Char.ofNat).map Char.toNat = cs := by
      rw [List.map_map]
      exact (List.map_congr_left hchars).trans (List.map_id cs)
    rw [Json.codePoints?, String.toList_ofList, hlist]
  · rfl

theorem normalize_text {d : Data} {p : List Nat} (hd : Json.codePoints? d = some p) (hp : p ≠ []) : normalize d = .ok (Json.textOf (normalForm p)) := by
  obtain ⟨c, cs, rfl⟩ := List.exists_cons_of_ne_nil hp
  simp only [normalize, hd]

/-- Only texts with something in them have a normal form. -/
theorem text_of_normalize {d n : Data} (h : normalize d = .ok n) : ∃ p, p ≠ [] ∧ Json.codePoints? d = some p ∧ n = Json.textOf (normalForm p) := by
  unfold normalize at h
  split at h
  · next c cs hd =>
    cases h
    exact ⟨c :: cs, List.cons_ne_nil _ _, hd, rfl⟩
  · cases h

/-- The name of a script writes a normal form in characters. -/
theorem ofData_spells {d : Data} {path : String} (h : ofData d = .ok path) :
    ∃ p, p ≠ [] ∧ Json.codePoints? d = some p ∧ path.toList.map Char.toNat = normalForm p := by
  unfold ofData at h
  cases hn : normalize d with
  | error e =>
    rw [hn] at h
    cases h
  | ok n =>
    rw [hn] at h
    obtain ⟨p, hp, hd, rfl⟩ := text_of_normalize hn
    refine ⟨p, hp, hd, ?_⟩
    have hcodes := codePoints?_textOf (normalForm p)
    dsimp only [bind, Except.bind] at h
    split at h
    · next name htext =>
      cases h
      rw [htext] at hcodes
      exact Option.some.inj hcodes
    · cases h

theorem textOf_codes (path : String) : Json.textOf (path.toList.map Char.toNat) = .str path := by
  have hvalid : (path.toList.map Char.toNat).all (fun n => n.isValidChar) = true := by
    simp only [List.all_map, List.all_eq_true, Function.comp_apply, decide_eq_true_eq]
    exact fun c _ => c.valid
  have hchars : (path.toList.map Char.toNat).map Char.ofNat = path.toList := by
    rw [List.map_map]
    exact (List.map_congr_left fun c _ => Char.ofNat_toNat c).trans (List.map_id _)
  rw [Json.textOf, if_pos hvalid, hchars, String.ofList_toList]

/-- Paths that lead to one place name one script. -/
theorem ofData_congr {d e : Data} {p q : List Nat} (hd : Json.codePoints? d = some p) (hp : p ≠ []) (he : Json.codePoints? e = some q) (hq : q ≠ [])
    (h : resolve (components p) = resolve (components q)) : ofData d = ofData e := by
  simp only [ofData, normalize_text hd hp, normalize_text he hq, (normalForm_eq_iff p q).mpr h]

/-- A path that was read is read as itself. -/
theorem ofData_normal {d : Data} {path : String} (h : ofData d = .ok path) : ofData (.str path) = .ok path := by
  obtain ⟨p, -, -, hpath⟩ := ofData_spells h
  have hcodes : Json.codePoints? (.str path) = some (normalForm p) := congrArg some hpath
  have htext := textOf_codes path
  rw [hpath] at htext
  simp only [ofData, normalize_text hcodes (normalForm_ne_nil p), normalForm_normalForm, htext]
  rfl

end ScriptFlow.ScriptPath
