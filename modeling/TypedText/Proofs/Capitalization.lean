import TypedText.Proofs.Scans

/-!
# TypedText.Proofs.Capitalization

What the classification of a word counts. Stopping early does not matter (`scan_cases`), so the
answer is that of counting to the end: every letter behind the first one, and every capital, letter or
not.

* `Capitalization.ofLetters`: the classification by the letters of a word alone.
* `Capitalization.hasStrayCapital`: whether a capital that is no letter, such as a Roman numeral or a
  circled letter, follows the first letter.
* `capitalization_by_letters`: the two agree, unless the first letter is the only capital letter and
  a stray capital follows it.
-/

namespace TypedText
namespace Capitalization

namespace Tally

variable {a : Alphabet} {n : Tally} {c : CodePoint} {cs : List CodePoint}

def count (a : Alphabet) (n : Tally) (cs : List CodePoint) : Tally :=
  cs.foldl (Tally.add a) n

/-- A tally that started with a capital letter: no capital is counted that is not counted as a letter
too. -/
structure Started (n : Tally) : Prop where
  capitals_pos : 1 ≤ n.capitals
  capitals_le : n.capitals ≤ n.letters

theorem Started.add (h : n.Started) (a : Alphabet) (c : CodePoint) : (n.add a c).Started := by
  obtain ⟨hpos, hle⟩ := h
  simp only [Tally.add]
  split
  · exact ⟨by simp, by simpa using hle⟩
  · split
    · exact ⟨hpos, Nat.le_succ_of_le hle⟩
    · exact ⟨hpos, hle⟩

theorem settled_iff : n.settled = true ↔ n.capitals ≠ 1 ∧ n.letters ≠ n.capitals := by
  simp [settled]

theorem settled_add (h : n.Started) (hs : n.settled = true) : (n.add a c).settled = true := by
  obtain ⟨hpos, hle⟩ := h
  rw [settled_iff] at hs ⊢
  simp only [Tally.add]
  split
  · exact ⟨by simp; omega, by simp; omega⟩
  · split
    · exact ⟨hs.1, by simp; omega⟩
    · exact hs

theorem settled_count (h : n.Started) (hs : n.settled = true) : (count a n cs).settled = true := by
  induction cs generalizing n with
  | nil => exact hs
  | cons c rest ih => exact ih (h.add a c) (settled_add h hs)

theorem capitalization_of_settled (h : n.settled = true) : n.capitalization = .none := by
  rw [settled_iff] at h
  rw [capitalization, if_neg h.1, if_neg h.2]

/-- What is counted both as a capital and as a letter changes the answer only where it makes a second
capital. -/
theorem capitalization_add_both {capitals letters k : Nat} (hpos : 1 ≤ capitals) :
    capitalization ⟨capitals + k, letters + k⟩ =
      if capitalization ⟨capitals, letters⟩ = .first ∧ 0 < k then
        if letters = 1 then .all else .none
      else capitalization ⟨capitals, letters⟩ := by
  simp only [capitalization]
  by_cases hone : capitals = 1
  · by_cases hk : k = 0
    · simp [hone, hk]
    · have hsecond : ¬ capitals + k = 1 := by omega
      have hall : letters + k = capitals + k ↔ letters = 1 := by omega
      simp only [hone, if_true, true_and, Nat.pos_of_ne_zero hk] at hsecond hall ⊢
      simp only [hsecond, hall, if_false]
  · have hsecond : ¬ capitals + k = 1 := by omega
    have hfirst : (if letters = capitals then Capitalization.all else .none) ≠ .first := by
      split <;> simp
    have hall : letters + k = capitals + k ↔ letters = capitals := by omega
    simp only [hone, hsecond, hfirst, hall, if_false, false_and]

/-- The early stop never changes the answer: what it leaves uncounted could not mend it. -/
theorem scan_cases (a : Alphabet) (cs : List CodePoint) (h : n.Started) :
    (scan a n cs = Option.none ∧ (count a n cs).settled = true) ∨
      scan a n cs = some (count a n cs) := by
  induction cs generalizing n with
  | nil => exact .inr rfl
  | cons c rest ih =>
    cases hs : n.settled with
    | true => exact .inl ⟨by simp [scan, hs], settled_count h hs⟩
    | false =>
      have hscan : scan a n (c :: rest) = scan a (n.add a c) rest := by simp [scan, hs]
      rw [hscan]
      exact ih (h.add a c)

end Tally

/-- The classification by a count that goes on to the end of the text. -/
def classifyToEnd (a : Alphabet) (cs : List CodePoint) : Capitalization :=
  match cs.dropWhile (!a.isLetter ·) with
  | [] => .none
  | c :: rest => if a.isUpper c then (Tally.count a ⟨1, 1⟩ rest).capitalization else .none

theorem classify_eq (a : Alphabet) (cs : List CodePoint) :
    classify a (cs, Option.none) = .ok (classifyToEnd a cs) := by
  simp only [classify, classifyToEnd]
  cases cs.dropWhile (!a.isLetter ·) with
  | nil => rfl
  | cons c rest =>
    cases hu : a.isUpper c with
    | false => simp [hu]
    | true =>
      have hstart : Tally.Started ⟨1, 1⟩ := ⟨Nat.le_refl 1, Nat.le_refl 1⟩
      rcases Tally.scan_cases a rest hstart with ⟨hscan, hset⟩ | hscan
      · simp [hu, hscan, Tally.capitalization_of_settled hset]
      · simp [hu, hscan, Reading.verdict_complete]

/-- The classification by letters alone: how many of them are capitals, if the first one is. -/
def ofLetters (letters : List CodePoint) : Capitalization :=
  let capitals := letters.countP CodePoint.isUpper
  if letters.head?.any CodePoint.isUpper then
    if capitals = 1 then .first
    else if letters.length = capitals then .all
    else .none
  else .none

/-- A capital that is no letter, such as a Roman numeral or a circled letter. -/
def isStrayCapital (c : CodePoint) : Bool :=
  c.isUpper && !c.isLetter

def hasStrayCapital (cs : List CodePoint) : Bool :=
  (cs.dropWhile (!·.isLetter)).any isStrayCapital

/-- Behind the first letter the count takes in every letter and every stray capital. -/
theorem count_unicode (n : Tally) (cs : List CodePoint) :
    Tally.count .unicode n cs =
      ⟨n.capitals + (cs.filter CodePoint.isLetter).countP CodePoint.isUpper +
          cs.countP isStrayCapital,
        n.letters + (cs.filter CodePoint.isLetter).length + cs.countP isStrayCapital⟩ := by
  induction cs generalizing n with
  | nil => rfl
  | cons c rest ih =>
    have hstep : Tally.count .unicode n (c :: rest) =
        Tally.count .unicode (n.add .unicode c) rest := rfl
    rw [hstep, ih]
    cases hu : c.isUpper <;> cases hl : c.isLetter <;>
      simp [Tally.add, Alphabet.unicode, isStrayCapital, hu, hl] <;> omega

theorem filter_isLetter_dropWhile (cs : List CodePoint) :
    (cs.dropWhile (!·.isLetter)).filter CodePoint.isLetter = cs.filter CodePoint.isLetter := by
  induction cs with
  | nil => rfl
  | cons c rest ih => cases hc : c.isLetter <;> simp [hc, ih]

theorem ofLetters_cons {c : CodePoint} (hc : c.isUpper = true) (others : List CodePoint) :
    ofLetters (c :: others) =
      Tally.capitalization ⟨1 + others.countP CodePoint.isUpper, 1 + others.length⟩ := by
  simp [ofLetters, Tally.capitalization, hc, Nat.add_comm 1]

theorem count_first {c : CodePoint} (hc : c.isUpper = true) (rest : List CodePoint) :
    (Tally.count .unicode ⟨1, 1⟩ rest).capitalization =
      if ofLetters (c :: rest.filter CodePoint.isLetter) = .first ∧ rest.any isStrayCapital then
        if (c :: rest.filter CodePoint.isLetter).length = 1 then .all else .none
      else ofLetters (c :: rest.filter CodePoint.isLetter) := by
  have hany : rest.any isStrayCapital = true ↔ 0 < rest.countP isStrayCapital := by
    rw [List.any_eq_true, List.countP_pos_iff]
  rw [count_unicode, Tally.capitalization_add_both (Nat.le_add_right 1 _), ofLetters_cons hc]
  simp only [hany, List.length_cons, Nat.add_comm 1]

theorem classifyToEnd_unicode (cs : List CodePoint) :
    classifyToEnd .unicode cs =
      if ofLetters (cs.filter CodePoint.isLetter) = .first ∧ hasStrayCapital cs then
        if (cs.filter CodePoint.isLetter).length = 1 then .all else .none
      else ofLetters (cs.filter CodePoint.isLetter) := by
  have hletters := filter_isLetter_dropWhile cs
  have hhead := List.head?_dropWhile_not (!·.isLetter) cs
  have hanswer : classifyToEnd .unicode cs =
      match cs.dropWhile (!·.isLetter) with
      | [] => .none
      | c :: rest =>
        if c.isUpper then (Tally.count .unicode ⟨1, 1⟩ rest).capitalization else .none := rfl
  cases hbody : cs.dropWhile (!·.isLetter) with
  | nil =>
    simp only [hbody] at hletters hanswer
    rw [hanswer, ← hletters]
    simp [ofLetters]
  | cons c rest =>
    simp only [hbody] at hletters hhead hanswer
    have hletter : c.isLetter = true := by simpa using hhead
    have hstray : hasStrayCapital cs = rest.any isStrayCapital := by
      simp [hasStrayCapital, hbody, isStrayCapital, hletter]
    rw [List.filter_cons_of_pos hletter] at hletters
    rw [hanswer, ← hletters, hstray]
    by_cases hu : c.isUpper = true
    · rw [if_pos hu]
      exact count_first hu rest
    · simp [hu, ofLetters]

theorem classifyToEnd_of_capitals_letters {cs : List CodePoint}
    (h : ∀ c ∈ cs, c.isUpper = true → c.isLetter = true) :
    classifyToEnd .unicode cs = ofLetters (cs.filter CodePoint.isLetter) := by
  have hstray : hasStrayCapital cs = false := by
    rw [hasStrayCapital, List.any_eq_false]
    intro c hc
    have hcapital := h c ((List.dropWhile_sublist _).mem hc)
    cases hu : c.isUpper with
    | false => simp [isStrayCapital, hu]
    | true => simp [isStrayCapital, hcapital hu]
  rw [classifyToEnd_unicode, hstray]
  simp

theorem classifyToEnd_letters (cs : List CodePoint) :
    classifyToEnd .unicode (cs.filter CodePoint.isLetter) =
      ofLetters (cs.filter CodePoint.isLetter) := by
  have hletters : ∀ c ∈ cs.filter CodePoint.isLetter, c.isUpper = true → c.isLetter = true := by
    intro c hc _
    exact (List.mem_filter.mp hc).2
  rw [classifyToEnd_of_capitals_letters hletters, List.filter_filter]
  simp

def ofCount : Nat → Capitalization
  | 0 => .none
  | 1 => .first
  | _ => .all

section OfLetters

variable {c : CodePoint} {letters : List CodePoint}

theorem ofLetters_of_no_capital (h : ∀ c ∈ letters, c.isUpper = false) :
    ofLetters letters = .none := by
  cases letters with
  | nil => rfl
  | cons c others =>
    have hc := h c List.mem_cons_self
    simp [ofLetters, hc]

theorem ofLetters_of_all_capitals (h : ∀ c ∈ letters, c.isUpper = true) :
    ofLetters letters = ofCount letters.length := by
  have hcount : letters.countP CodePoint.isUpper = letters.length := List.countP_eq_length.mpr h
  match letters with
  | [] => rfl
  | [c] =>
    have hc := h c List.mem_cons_self
    simp [ofLetters, ofCount, hc]
  | c :: d :: others =>
    have hc := h c List.mem_cons_self
    simp [ofLetters, ofCount, hc, hcount]

theorem ofLetters_of_first_capital (hc : c.isUpper = true)
    (h : ∀ d ∈ letters, d.isUpper = false) : ofLetters (c :: letters) = .first := by
  have hcount : letters.countP CodePoint.isUpper = 0 := by
    rw [List.countP_eq_zero]
    intro d hd
    simp [h d hd]
  rw [ofLetters_cons hc, hcount]
  rfl

end OfLetters

end Capitalization

namespace Text

open Capitalization

/-- **Classification by letters.** A text is classified as its letters alone are, and these as by how
many of them are capitals, with one exception: if the first letter is the only capital one and a stray
capital follows it, the stray one counts as a letter, so that the answer is `all` for a single letter
and `none` for more. -/
theorem capitalization_by_letters {t : Text} (ht : t.Paired) :
    ∃ cs, t.codePoints = .ok cs ∧
      t.capitalization =
        .ok
          (if ofLetters (cs.filter CodePoint.isLetter) = .first ∧ hasStrayCapital cs then
            if (cs.filter CodePoint.isLetter).length = 1 then .all else .none
          else ofLetters (cs.filter CodePoint.isLetter)) ∧
      capitalization (cs.filter CodePoint.isLetter) =
        .ok (ofLetters (cs.filter CodePoint.isLetter)) := by
  obtain ⟨cs, hcs⟩ := paired_iff_encodes.mp ht
  have hletters : Encodes (cs.filter CodePoint.isLetter) (cs.filter CodePoint.isLetter) :=
    .self fun c hc => hcs.isSurrogate_eq_false c (List.mem_filter.mp hc).1
  refine ⟨cs, codePoints_eq_ok_iff.mpr hcs, ?_, ?_⟩
  · rw [capitalization_encoded hcs, classify_eq, classifyToEnd_unicode]
  · rw [capitalization_encoded hletters, classify_eq, classifyToEnd_letters]

/-- A word with a Roman numeral behind it. -/
theorem capitalization_by_letters_numeral :
    Paired [0x48, 0x65, 0x2167] ∧
      ∃ cs, codePoints [0x48, 0x65, 0x2167] = .ok cs ∧
        capitalization [0x48, 0x65, 0x2167] =
          .ok
            (if ofLetters (cs.filter CodePoint.isLetter) = .first ∧ hasStrayCapital cs then
              if (cs.filter CodePoint.isLetter).length = 1 then .all else .none
            else ofLetters (cs.filter CodePoint.isLetter)) ∧
        capitalization (cs.filter CodePoint.isLetter) =
          .ok (ofLetters (cs.filter CodePoint.isLetter)) :=
  ⟨by decide, capitalization_by_letters (by decide)⟩

/-- The letters alone do not decide: a circled letter behind a capital one counts as a second letter. -/
theorem capitalization_circled_letter :
    codePoints [0x41, 0x24B6] = .ok [0x41, 0x24B6] ∧
      capitalization [0x41, 0x24B6] = .ok .all ∧
      ofLetters (List.filter CodePoint.isLetter [0x41, 0x24B6]) = .first :=
  ⟨rfl, rfl, by decide +kernel⟩

end Text
end TypedText
