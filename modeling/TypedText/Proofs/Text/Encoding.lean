import TypedText.Proofs.Text.Units

/-!
# TypedText.Proofs.Text.Encoding

The texts that store a list of scalar values, each value in one of the forms it has (`Encodes`), and
what the two walks over units do with them, in either direction.

* `read_encoded`, `skip_encoded`: walking over an encoding reads, or passes, exactly its values, and
  then goes on with the units behind it.
* `read_spec`, `skip_spec`: what any walk has passed is an encoding, and it stopped where no code
  point starts.
* `Encodes.unique`: a text encodes at most one list.
* `Encodes.eq_of_length_le`, `Encodes.mem_of_bmp`: what is stored as it is.
-/

namespace TypedText

/-- The units `t` store the scalar values `cs`, one after the other. -/
inductive Encodes : Text → List CodePoint → Prop where
  | nil : Encodes [] []
  | cons {us t : Text} {c : CodePoint} {cs : List CodePoint} :
      Stores us c → Encodes t cs → Encodes (us ++ t) (c :: cs)

/-- The text of scalar values, each in the form chosen for it. -/
def Text.store (items : List (CodePoint × Form)) : Text :=
  items.flatMap fun p => p.1.store p.2

namespace Encodes

theorem one {us : Text} {c : CodePoint} (h : Stores us c) : Encodes us [c] := by
  simpa using cons h nil

theorem append {s t : Text} {cs ds : List CodePoint} (hs : Encodes s cs) (ht : Encodes t ds) :
    Encodes (s ++ t) (cs ++ ds) := by
  induction hs with
  | nil => exact ht
  | cons hu _ ih => rw [List.append_assoc]; exact .cons hu ih

theorem stores_of_one {us : Text} {c : CodePoint} (h : Encodes us [c]) : Stores us c := by
  cases h with
  | cons hu ht => cases ht; simpa using hu

theorem split {cs ds : List CodePoint} :
    ∀ {t : Text}, Encodes t (cs ++ ds) → ∃ s s', t = s ++ s' ∧ Encodes s cs ∧ Encodes s' ds := by
  induction cs with
  | nil => intro t h; exact ⟨[], t, rfl, .nil, h⟩
  | cons c cs ih =>
    intro t h
    cases h with
    | cons hu ht =>
      obtain ⟨s, s', rfl, hs, hs'⟩ := ih ht
      exact ⟨_, s', (List.append_assoc ..).symm, .cons hu hs, hs'⟩

theorem isSurrogate_eq_false {t : Text} {cs : List CodePoint} (h : Encodes t cs) :
    ∀ c ∈ cs, c.isSurrogate = false := by
  induction h with
  | nil => simp
  | cons hu _ ih => simpa using ⟨hu.isSurrogate, ih⟩

theorem self {cs : List CodePoint} (h : ∀ c ∈ cs, c.isSurrogate = false) : Encodes cs cs := by
  induction cs with
  | nil => exact .nil
  | cons c cs ih =>
    rw [List.forall_mem_cons] at h
    exact .cons (.unit h.1) (ih h.2)

theorem length_le {t : Text} {cs : List CodePoint} (h : Encodes t cs) : cs.length ≤ t.length := by
  induction h with
  | nil => simp
  | cons hu _ ih =>
    have := hu.length_pos
    rw [List.length_append, List.length_cons]; omega

/-- A text encodes scalar values exactly if it is what a choice of a form for each of them gives. -/
theorem iff_store {t : Text} {cs : List CodePoint} :
    Encodes t cs ↔ ∃ items : List (CodePoint × Form),
      (∀ p ∈ items, p.1.isSurrogate = false) ∧ items.map Prod.fst = cs ∧ Text.store items = t := by
  constructor
  · intro h
    induction h with
    | nil => exact ⟨[], by simp, rfl, rfl⟩
    | cons hu _ ih =>
      obtain ⟨items, hs, rfl, rfl⟩ := ih
      obtain ⟨f, rfl⟩ := CodePoint.exists_form hu
      exact ⟨(_, f) :: items, List.forall_mem_cons.mpr ⟨hu.isSurrogate, hs⟩, rfl, rfl⟩
  · rintro ⟨items, hs, rfl, rfl⟩
    induction items with
    | nil => exact .nil
    | cons p items ih =>
      rw [List.forall_mem_cons] at hs
      exact .cons (CodePoint.stores_store hs.1 p.2) (ih hs.2)

/-- One code point more at the end that a walk in this direction meets first. -/
theorem meet {d : Direction} {us s : Text} {c : CodePoint} {cs : List CodePoint}
    (hu : Stores us c) (hs : Encodes s (d.order cs)) :
    ∃ s', d.order s' = d.order us ++ d.order s ∧ Encodes s' (d.order (c :: cs)) := by
  cases d with
  | forward => exact ⟨us ++ s, rfl, .cons hu hs⟩
  | backward =>
    refine ⟨s ++ us, List.reverse_append, ?_⟩
    simpa using hs.append (.one hu)

end Encodes

namespace Text

theorem read_eq (d : Direction) (t : Text) :
    read d t =
      match t.split? d with
      | none => ⟨[], t⟩
      | some (c, rest) => (read d rest).cons c := by
  cases t with
  | nil => rfl
  | cons u rest =>
    cases hu : u.isSurrogate with
    | false => rw [split?_scalar hu]; cases rest <;> simp [read, hu]
    | true =>
      rw [split?_surrogate hu]
      cases rest with
      | nil => simp [read, hu]
      | cons v rest => cases hj : d.join? u v <;> simp [read, hu, hj]

theorem read_stuck {d : Direction} {t : Text} (h : t.split? d = none) : read d t = ⟨[], t⟩ := by
  rw [read_eq, h]

theorem read_step {d : Direction} {t rest : Text} {c : CodePoint}
    (h : t.split? d = some (c, rest)) : read d t = (read d rest).cons c := by
  rw [read_eq, h]

theorem read_stored (d : Direction) {us : Text} {c : CodePoint} (h : Stores us c) (rest : Text) :
    read d (d.order us ++ rest) = (read d rest).cons c :=
  read_step (split?_eq_some_iff.mpr ⟨us, h, rfl⟩)

theorem skip_stored (d : Direction) {us : Text} {c : CodePoint} (h : Stores us c) (n : Nat)
    (rest : Text) : skip d (n + 1) (d.order us ++ rest) = skip d n rest := by
  rw [skip, split?_eq_some_iff.mpr ⟨us, h, rfl⟩]

theorem read_encoded {d : Direction} {t : Text} {cs : List CodePoint} (h : Encodes t cs) :
    ∀ rest, read d (d.order t ++ rest) =
      ⟨d.order cs ++ (read d rest).codePoints, (read d rest).unread⟩ := by
  induction h with
  | nil => intro rest; cases d <;> rfl
  | @cons us t c cs hu _ ih =>
    intro rest
    cases d with
    | forward =>
      have hs := read_stored .forward hu (t ++ rest)
      simp only [Direction.order_forward] at ih hs ⊢
      rw [List.append_assoc, hs, ih]
      rfl
    | backward =>
      have hs := read_stored .backward hu rest
      simp only [Direction.order_backward] at ih hs ⊢
      rw [List.reverse_append, List.append_assoc, ih, hs]
      simp [Reading.cons]

theorem skip_encoded {d : Direction} {t : Text} {cs : List CodePoint} (h : Encodes t cs) :
    ∀ (n : Nat) (rest : Text), skip d (cs.length + n) (d.order t ++ rest) = skip d n rest := by
  induction h with
  | nil => intro n rest; cases d <;> simp
  | @cons us t c cs hu _ ih =>
    intro n rest
    cases d with
    | forward =>
      have hs := skip_stored .forward hu (cs.length + n) (t ++ rest)
      simp only [Direction.order_forward] at ih hs ⊢
      rw [List.append_assoc, List.length_cons, Nat.add_right_comm, hs, ih]
    | backward =>
      have hs := skip_stored .backward hu n rest
      simp only [Direction.order_backward] at ih hs ⊢
      rw [List.reverse_append, List.append_assoc, List.length_cons, Nat.add_assoc, Nat.add_comm 1,
        ih, hs]

/-- What has been read is an encoding, and no code point starts behind it. -/
theorem read_spec (d : Direction) (t : Text) :
    ∃ s, t = d.order s ++ (read d t).unread ∧ Encodes s (d.order (read d t).codePoints) ∧
      split? d (read d t).unread = none := by
  induction hn : t.length using Nat.strongRecOn generalizing t with
  | _ n ih =>
    cases h : t.split? d with
    | none =>
      rw [read_stuck h]
      exact ⟨[], by cases d <;> rfl, by cases d <;> exact .nil, h⟩
    | some p =>
      obtain ⟨c, rest⟩ := p
      rw [read_step h]
      obtain ⟨us, hu, rfl⟩ := split?_eq_some_iff.mp h
      have hlt : rest.length < n := by
        have := hu.length_pos
        cases d <;> simp at hn <;> omega
      obtain ⟨s, hs, he, hstop⟩ := ih rest.length hlt rest rfl
      obtain ⟨s', hs', he'⟩ := Encodes.meet hu he
      refine ⟨s', ?_, he', hstop⟩
      rw [hs', List.append_assoc]
      simp only [Reading.cons]
      rw [← hs]

/-- What has been skipped is an encoding of as many values as were passed, and a walk that could
not pass them all stopped where no code point starts. -/
theorem skip_spec (d : Direction) (n : Nat) (t : Text) :
    ∃ s cs, t = d.order s ++ (skip d n t).2 ∧ Encodes s cs ∧ cs.length + (skip d n t).1 = n ∧
      (0 < (skip d n t).1 → split? d (skip d n t).2 = none) := by
  induction n generalizing t with
  | zero => exact ⟨[], [], by cases d <;> rfl, .nil, rfl, fun h => absurd h (Nat.lt_irrefl 0)⟩
  | succ n ih =>
    cases h : t.split? d with
    | none =>
      have hskip : skip d (n + 1) t = (n + 1, t) := by simp only [skip, h]
      rw [hskip]
      exact ⟨[], [], by cases d <;> rfl, .nil, Nat.zero_add _, fun _ => h⟩
    | some p =>
      obtain ⟨c, rest⟩ := p
      have hskip : skip d (n + 1) t = skip d n rest := by simp only [skip, h]
      rw [hskip]
      obtain ⟨us, hu, rfl⟩ := split?_eq_some_iff.mp h
      obtain ⟨s, cs, hs, he, hlen, hstop⟩ := ih rest
      have hmet : Encodes s (d.order (d.order cs)) := by cases d <;> simpa using he
      obtain ⟨s', hs', he'⟩ := Encodes.meet hu hmet
      refine ⟨s', _, ?_, he', ?_, hstop⟩
      · rw [hs', List.append_assoc, ← hs]
      · cases d <;> simp <;> omega

theorem read_eq_iff {d : Direction} {t : Text} {cs : List CodePoint} :
    read d t = ⟨cs, []⟩ ↔ Encodes (d.order t) (d.order cs) := by
  constructor
  · intro h
    obtain ⟨s, hs, he, -⟩ := read_spec d t
    rw [h] at hs he
    cases d <;> simp_all
  · intro h
    have := read_encoded (d := d) h []
    cases d <;> simpa [read] using this

end Text

theorem Encodes.unique {t : Text} {cs ds : List CodePoint} (h : Encodes t cs)
    (h' : Encodes t ds) : cs = ds := by
  have hc := Text.read_eq_iff (d := .forward).mpr h
  have hd := Text.read_eq_iff (d := .forward).mpr h'
  rw [hc] at hd
  cases hd
  rfl

namespace Encodes

variable {s t : Text} {cs ds : List CodePoint}

/-- What follows an encoding in a longer one encodes what follows its code points. -/
theorem of_append (hs : Encodes s ds) (h : Encodes (s ++ t) cs) :
    ∃ es, cs = ds ++ es ∧ Encodes t es := by
  have hread := Text.read_encoded (d := .forward) hs t
  simp only [Direction.order_forward] at hread
  rw [Text.read_eq_iff (d := .forward).mpr h] at hread
  injection hread with hcs hun
  refine ⟨_, hcs, Text.read_eq_iff (d := .forward).mp ?_⟩
  rw [hun]

/-- A text that is no longer than what it encodes has no pairs in it. -/
theorem eq_of_length_le (h : Encodes t cs) (hlen : t.length ≤ cs.length) : t = cs := by
  induction h with
  | nil => rfl
  | cons hu ht ih =>
    have hrest := ht.length_le
    rw [List.length_append, List.length_cons] at hlen
    cases hu with
    | unit _ =>
      rw [List.length_singleton] at hlen
      rw [ih (by omega), List.singleton_append]
    | pair _ =>
      simp only [List.length_cons, List.length_nil] at hlen
      omega

/-- Code points that have one form only are stored as they are. -/
theorem eq_of_bmp (h : Encodes t cs) (hcs : ∀ c ∈ cs, c.val ≤ 0xFFFF) : t = cs := by
  induction h with
  | nil => rfl
  | cons hu _ ih =>
    rw [List.forall_mem_cons] at hcs
    rw [ih hcs.2]
    cases hu with
    | unit _ => rfl
    | pair hc => omega

theorem infix_of_bmp (h : Encodes t cs) (hds : ∀ d ∈ ds, d.val ≤ 0xFFFF) (hin : ds <:+: cs) :
    ds <:+: t := by
  obtain ⟨before, after, rfl⟩ := hin
  obtain ⟨s, s', rfl, hs, -⟩ := h.split
  obtain ⟨r, r', rfl, -, hr⟩ := hs.split
  rw [hr.eq_of_bmp hds]
  exact ⟨r, s', rfl⟩

theorem mem_of_bmp {c : CodePoint} (h : Encodes t cs) (hc : c.val ≤ 0xFFFF) (hmem : c ∈ cs) :
    c ∈ t := by
  obtain ⟨before, after, rfl⟩ := List.append_of_mem hmem
  have hin : [c] <:+: before ++ c :: after := ⟨before, after, by simp⟩
  exact (h.infix_of_bmp (by simpa using hc) hin).mem (List.mem_singleton_self c)

end Encodes

end TypedText
