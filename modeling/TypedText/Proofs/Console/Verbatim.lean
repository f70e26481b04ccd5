import Mathlib.Data.List.TakeWhile
import TypedText.Console.Screen

/-!
# TypedText.Proofs.Console.Verbatim

What the console shows of a text in quotes. Escaping puts backslashes before tags only, so each bracket
begins a tag afterwards if and only if it did before (`opensTag_escaped_iff`), and every tag is plain text.
A bracket that begins no tag is not escaped, though, and showing it drops the backslash before it; and the
backslash that a last one gets for company stays, as the quote after it is no bracket
(`line_quote`).

* `Markup.OpensTag`: what must follow a bracket that begins a tag.
* `Markup.withoutEscapes`: a text without the backslashes that are dropped.
* `scanInduct`: induction along the pieces of a text.
-/

namespace TypedText
namespace Markup

variable {t u v rest body after shown : Text} {c d : CodePoint} {n : Nat}

/-! ## Tags -/

/-- The inside of a tag: what a tag can start with, and no bracket. -/
def IsBody (body : Text) : Prop :=
  ∃ c inside, body = c :: inside ∧ startsTag c = true ∧
    ∀ d ∈ inside, d ≠ closeBracket ∧ d ≠ openBracket

/-- A bracket before this begins a tag. -/
def OpensTag (rest : Text) : Prop :=
  ∃ body after, IsBody body ∧ rest = body ++ closeBracket :: after

def isBracket (c : CodePoint) : Bool :=
  c = closeBracket || c = openBracket

theorem startsTag_ne (h : startsTag c = true) : c ≠ openBracket ∧ c ≠ closeBracket ∧ c ≠ backslash := by
  refine ⟨?_, ?_, ?_⟩ <;> rintro rfl <;> exact absurd h (by decide)

theorem isBracket_eq_false_iff : isBracket c = false ↔ c ≠ closeBracket ∧ c ≠ openBracket := by
  simp [isBracket]

theorem tagBody?_eq_some_iff :
    tagBody? t = some (body, after) ↔ IsBody body ∧ t = body ++ closeBracket :: after := by
  constructor
  · intro h
    unfold tagBody? at h
    split at h
    · cases h
    · rename_i c rest
      split at h
      · rename_i hc
        obtain ⟨tail, htail⟩ :=
          List.takeWhile_prefix (l := rest) fun d => d ≠ closeBracket && d ≠ openBracket
        have hinside := fun d => List.mem_takeWhile_imp (l := rest) (x := d)
          (p := fun d => d ≠ closeBracket && d ≠ openBracket)
        generalize rest.takeWhile (fun d => d ≠ closeBracket && d ≠ openBracket) = inside at *
        subst htail
        simp only [List.drop_left] at h
        split at h
        · rename_i d after'
          split at h
          · rename_i hd
            subst hd
            cases h
            exact ⟨⟨c, inside, rfl, hc, fun d hd => by simpa using hinside d hd⟩, rfl⟩
          · cases h
        · cases h
      · cases h
  · rintro ⟨⟨c, inside, rfl, hc, hinside⟩, rfl⟩
    have htake : (inside ++ closeBracket :: after).takeWhile
        (fun d => d ≠ closeBracket && d ≠ openBracket) = inside := by
      rw [List.takeWhile_append_of_pos (by simpa using hinside)]
      simp
    rw [List.cons_append, tagBody?, if_pos hc]
    simp only [htake, List.drop_left, if_true]

theorem isSome_tagBody?_iff : (tagBody? t).isSome = true ↔ OpensTag t := by
  rw [OpensTag, Option.isSome_iff_exists]
  simp only [Prod.exists, tagBody?_eq_some_iff]

instance (rest : Text) : Decidable (OpensTag rest) :=
  decidable_of_iff _ isSome_tagBody?_iff

/-- Whether a tag begins shows in the next unit and in the first bracket. -/
theorem opensTag_iff_brackets :
    OpensTag t ↔ t.head?.any startsTag = true ∧ t.find? isBracket = some closeBracket := by
  constructor
  · rintro ⟨_, after, ⟨c, inside, rfl, hc, hinside⟩, rfl⟩
    have hclear : ∀ d ∈ c :: inside, isBracket d = false := by
      refine List.forall_mem_cons.mpr ⟨?_, fun d hd => isBracket_eq_false_iff.mpr (hinside d hd)⟩
      exact isBracket_eq_false_iff.mpr ⟨(startsTag_ne hc).2.1, (startsTag_ne hc).1⟩
    refine ⟨by simpa using hc, ?_⟩
    rw [List.find?_append, List.find?_eq_none.mpr (by simpa using hclear)]
    rfl
  · rintro ⟨hhead, hfind⟩
    obtain ⟨-, body, after, rfl, hclear⟩ := List.find?_eq_some_iff_append.mp hfind
    refine ⟨body, after, ?_, rfl⟩
    cases body with
    | nil =>
      rw [List.nil_append, List.head?_cons] at hhead
      exact absurd hhead (by decide)
    | cons c inside =>
      refine ⟨c, inside, rfl, by simpa using hhead, fun d hd => ?_⟩
      exact isBracket_eq_false_iff.mp (by simpa using hclear d (List.mem_cons_of_mem _ hd))

/-! ## Pieces -/

theorem piecesAfter_backslash (n : Nat) (rest : Text) :
    piecesAfter n (backslash :: rest) = piecesAfter (n + 1) rest := by
  rw [piecesAfter, if_pos rfl]

theorem piecesAfter_tag (h : IsBody body) :
    piecesAfter n (openBracket :: (body ++ closeBracket :: after)) =
      .tag n body :: piecesAfter 0 after := by
  have htag : tagBody? (body ++ closeBracket :: after) = some (body, after) :=
    tagBody?_eq_some_iff.mpr ⟨h, rfl⟩
  rw [piecesAfter, if_neg (by decide), if_pos rfl]
  split
  · rename_i body' after' heq
    rw [htag] at heq
    cases heq
    rfl
  · rename_i heq
    rw [htag] at heq
    cases heq

theorem piecesAfter_bracket (h : ¬ OpensTag rest) :
    piecesAfter n (openBracket :: rest) = .plain n openBracket :: piecesAfter 0 rest := by
  rw [piecesAfter, if_neg (by decide), if_pos rfl]
  split
  · rename_i body after heq
    exact absurd (isSome_tagBody?_iff.mp (by rw [heq]; rfl)) h
  · rfl

theorem piecesAfter_plain (hc : c ≠ backslash) (hc' : c ≠ openBracket) :
    piecesAfter n (c :: rest) = .plain n c :: piecesAfter 0 rest := by
  rw [piecesAfter, if_neg hc, if_neg hc']

theorem replicate_backslash_append (n : Nat) (rest : Text) :
    List.replicate n backslash ++ backslash :: rest = List.replicate (n + 1) backslash ++ rest := by
  rw [List.replicate_succ', List.append_assoc, List.singleton_append]

theorem pieces_replicate (n : Nat) (t : Text) :
    pieces (List.replicate n backslash ++ t) = piecesAfter n t := by
  have hcount : ∀ m, piecesAfter m (List.replicate n backslash ++ t) = piecesAfter (m + n) t := by
    induction n with
    | zero => exact fun m => rfl
    | succ n ih =>
      intro m
      rw [List.replicate_succ, List.cons_append, piecesAfter_backslash, ih, Nat.add_right_comm,
        Nat.add_assoc]
  rw [pieces, hcount, Nat.zero_add]

/-- Induction along the pieces of a text that follows a number of backslashes. -/
@[elab_as_elim]
theorem scanInduct {motive : Nat → Text → Prop} (nil : ∀ n, motive n [])
    (slash : ∀ n rest, motive (n + 1) rest → motive n (backslash :: rest))
    (tag : ∀ n body after, IsBody body → motive 0 after →
      motive n (openBracket :: (body ++ closeBracket :: after)))
    (bracket : ∀ n rest, ¬ OpensTag rest → motive 0 rest → motive n (openBracket :: rest))
    (plain : ∀ n c rest, c ≠ backslash → c ≠ openBracket → motive 0 rest → motive n (c :: rest))
    (n : Nat) (t : Text) : motive n t := by
  induction n, t using piecesAfter.induct with
  | case1 => exact nil 0
  | case2 n _ => exact nil n
  | case3 n rest ih => exact slash n rest ih
  | case4 n rest body after h _ _ ih =>
    obtain ⟨hbody, rfl⟩ := tagBody?_eq_some_iff.mp h
    exact tag n body after hbody ih
  | case5 n rest h _ ih =>
    have hno : ¬ OpensTag rest := by simp [← isSome_tagBody?_iff, h]
    exact bracket n rest hno ih
  | case6 n c rest hc hc' ih => exact plain n c rest hc hc' ih

/-! ## Escaped text -/

/-- What is escaped of a text that follows a number of backslashes, its last backslash still alone. -/
def escapedAfter (n : Nat) (t : Text) : Text :=
  (piecesAfter n t).flatMap escapePiece

theorem escapedAfter_nil (n : Nat) : escapedAfter n [] = List.replicate n backslash := by
  cases n with
  | zero => simp [escapedAfter, piecesAfter]
  | succ n => simp [escapedAfter, piecesAfter, escapePiece]

theorem escapedAfter_backslash (n : Nat) (rest : Text) :
    escapedAfter n (backslash :: rest) = escapedAfter (n + 1) rest := by
  rw [escapedAfter, piecesAfter_backslash, escapedAfter]

theorem escapedAfter_tag (h : IsBody body) :
    escapedAfter n (openBracket :: (body ++ closeBracket :: after)) =
      List.replicate (2 * n + 1) backslash ++ openBracket :: (body ++ closeBracket :: escapedAfter 0 after) := by
  rw [escapedAfter, piecesAfter_tag h, List.flatMap_cons, escapePiece, ← escapedAfter]
  simp [bracketed]

theorem escapedAfter_bracket (h : ¬ OpensTag rest) :
    escapedAfter n (openBracket :: rest) = List.replicate n backslash ++ openBracket :: escapedAfter 0 rest := by
  rw [escapedAfter, piecesAfter_bracket h, List.flatMap_cons, escapePiece, ← escapedAfter]
  simp

theorem escapedAfter_plain (hc : c ≠ backslash) (hc' : c ≠ openBracket) :
    escapedAfter n (c :: rest) = List.replicate n backslash ++ c :: escapedAfter 0 rest := by
  rw [escapedAfter, piecesAfter_plain hc hc', List.flatMap_cons, escapePiece, ← escapedAfter]
  simp

theorem find?_bracket_replicate (n : Nat) (t : Text) :
    (List.replicate n backslash ++ t).find? isBracket = t.find? isBracket := by
  have hnone : (List.replicate n backslash).find? isBracket = none :=
    List.find?_eq_none.mpr fun c hc => by rw [List.eq_of_mem_replicate hc]; decide
  rw [List.find?_append, hnone, Option.none_or]

/-- Backslashes are all that escaping adds, so the first bracket is the same. -/
theorem find?_bracket_escapedAfter (n : Nat) (t : Text) :
    (escapedAfter n t).find? isBracket = t.find? isBracket := by
  induction n, t using scanInduct with
  | nil n =>
    rw [escapedAfter_nil]
    simpa using find?_bracket_replicate n []
  | slash n rest ih =>
    rw [escapedAfter_backslash, ih, List.find?_cons_of_neg (by decide)]
  | tag n body after h ih =>
    rw [escapedAfter_tag h, find?_bracket_replicate, List.find?_cons_of_pos (by decide),
      List.find?_cons_of_pos (by decide)]
  | bracket n rest h ih =>
    rw [escapedAfter_bracket h, find?_bracket_replicate, List.find?_cons_of_pos (by decide),
      List.find?_cons_of_pos (by decide)]
  | plain n c rest hc hc' ih =>
    rw [escapedAfter_plain hc hc', find?_bracket_replicate, List.find?_cons, List.find?_cons, ih]

/-- Behind backslashes, escaped text begins with a backslash. -/
theorem exists_escapedAfter_succ (n : Nat) (t : Text) :
    ∃ u, escapedAfter (n + 1) t = backslash :: u := by
  induction n, t using scanInduct with
  | nil n => exact ⟨_, escapedAfter_nil _⟩
  | slash n rest ih =>
    rw [escapedAfter_backslash]
    exact ih
  | tag n body after h ih => exact ⟨_, escapedAfter_tag h⟩
  | bracket n rest h ih => exact ⟨_, escapedAfter_bracket h⟩
  | plain n c rest hc hc' ih => exact ⟨_, escapedAfter_plain hc hc'⟩

theorem head?_escapedAfter (t : Text) :
    (escapedAfter 0 t).head?.any startsTag = t.head?.any startsTag := by
  cases t with
  | nil => rw [escapedAfter_nil]; rfl
  | cons c rest =>
    by_cases hc : c = backslash
    · subst hc
      obtain ⟨u, hu⟩ := exists_escapedAfter_succ 0 rest
      rw [escapedAfter_backslash, hu]
      rfl
    · by_cases hc' : c = openBracket
      · subst hc'
        by_cases hopens : OpensTag rest
        · obtain ⟨body, after, hbody, rfl⟩ := hopens
          rw [escapedAfter_tag hbody]
          rfl
        · rw [escapedAfter_bracket hopens]
          rfl
      · rw [escapedAfter_plain hc hc']
        rfl

/-- What stands behind an escaped text in quotes. -/
def closing (e : Nat) : Text :=
  List.replicate e backslash ++ [0x22]

theorem head?_closing (e : Nat) : (closing e).head?.any startsTag = false := by
  cases e with
  | zero => decide
  | succ e => rw [closing, List.replicate_succ]; rfl

theorem opensTag_escaped_iff (e : Nat) : OpensTag (escapedAfter 0 t ++ closing e) ↔ OpensTag t := by
  have hclosing : (closing e).find? isBracket = none := by
    rw [closing, find?_bracket_replicate]
    decide
  have hhead : (escapedAfter 0 t ++ closing e).head?.any startsTag = t.head?.any startsTag := by
    rw [← head?_escapedAfter t]
    cases hescaped : escapedAfter 0 t with
    | nil => rw [List.nil_append, head?_closing]; rfl
    | cons c rest => rfl
  rw [opensTag_iff_brackets, opensTag_iff_brackets, hhead, List.find?_append, find?_bracket_escapedAfter,
    hclosing, Option.or_none]

/-! ## What is dropped -/

/-- The text without each backslash that stands right before a bracket that begins no tag. -/
def withoutEscapes : Text → Text
  | [] => []
  | [c] => [c]
  | c :: d :: rest =>
    if c = backslash ∧ d = openBracket ∧ ¬ OpensTag rest then withoutEscapes (d :: rest)
    else c :: withoutEscapes (d :: rest)

theorem withoutEscapes_cons (h : c = backslash → ∀ after, rest = openBracket :: after → OpensTag after) :
    withoutEscapes (c :: rest) = c :: withoutEscapes rest := by
  cases rest with
  | nil => rfl
  | cons d rest =>
    have hkept : ¬ (c = backslash ∧ d = openBracket ∧ ¬ OpensTag rest) := by
      rintro ⟨hc, rfl, hno⟩
      exact hno (h hc rest rfl)
    rw [withoutEscapes, if_neg hkept]

theorem withoutEscapes_dropped (h : ¬ OpensTag rest) :
    withoutEscapes (backslash :: openBracket :: rest) = openBracket :: withoutEscapes rest := by
  rw [withoutEscapes, if_pos ⟨rfl, rfl, h⟩, withoutEscapes_cons fun hc => absurd hc (by decide)]

/-- Nothing is dropped where no bracket follows. -/
theorem withoutEscapes_append (hu : openBracket ∉ u) (hd : d ≠ openBracket) :
    withoutEscapes (u ++ d :: rest) = u ++ withoutEscapes (d :: rest) := by
  induction u with
  | nil => rfl
  | cons c u ih =>
    have hrest := List.not_mem_of_not_mem_cons hu
    rw [List.cons_append, withoutEscapes_cons, ih hrest, List.cons_append]
    rintro - after hafter
    cases u with
    | nil => exact absurd (List.cons.inj hafter).1 hd
    | cons c' u => exact absurd (List.cons.inj hafter).1 fun heq => hrest (heq ▸ List.mem_cons_self)

theorem openBracket_not_mem_replicate (n : Nat) : openBracket ∉ List.replicate n backslash :=
  fun h => absurd (List.eq_of_mem_replicate h) (by decide)

theorem IsBody.not_mem (h : IsBody body) : openBracket ∉ body := by
  obtain ⟨c, inside, rfl, hc, hinside⟩ := h
  refine List.not_mem_cons_of_ne_of_not_mem (startsTag_ne hc).1.symm fun hmem => ?_
  exact (hinside _ hmem).2 rfl

/-- A backslash goes from before a bracket that begins no tag, and no other of its kind. -/
theorem withoutEscapes_bracket (h : ¬ OpensTag rest) (n : Nat) :
    withoutEscapes (List.replicate n backslash ++ openBracket :: rest) =
      List.replicate (n - 1) backslash ++ openBracket :: withoutEscapes rest := by
  cases n with
  | zero => exact withoutEscapes_cons fun hc => absurd hc (by decide)
  | succ n =>
    rw [← replicate_backslash_append,
      withoutEscapes_append (openBracket_not_mem_replicate n) (by decide), withoutEscapes_dropped h,
      Nat.add_sub_cancel]

theorem withoutEscapes_tag (h : IsBody body) (n : Nat) :
    withoutEscapes (List.replicate n backslash ++ openBracket :: (body ++ closeBracket :: after)) =
      List.replicate n backslash ++ openBracket :: (body ++ closeBracket :: withoutEscapes after) := by
  have hbody : withoutEscapes (openBracket :: (body ++ closeBracket :: after)) =
      openBracket :: (body ++ closeBracket :: withoutEscapes after) := by
    rw [withoutEscapes_cons fun hc => absurd hc (by decide), withoutEscapes_append h.not_mem (by decide),
      withoutEscapes_cons fun hc => absurd hc (by decide)]
  have hopens : OpensTag (body ++ closeBracket :: after) := ⟨body, after, h, rfl⟩
  cases n with
  | zero => exact hbody
  | succ n =>
    rw [← replicate_backslash_append, ← replicate_backslash_append,
      withoutEscapes_append (openBracket_not_mem_replicate n) (by decide), withoutEscapes_cons, hbody]
    rintro - _ heq
    rw [← (List.cons.inj heq).2]
    exact hopens

theorem withoutEscapes_plain (hc : c ≠ backslash) (hc' : c ≠ openBracket) (n : Nat) :
    withoutEscapes (List.replicate n backslash ++ c :: rest) =
      List.replicate n backslash ++ c :: withoutEscapes rest := by
  rw [withoutEscapes_append (openBracket_not_mem_replicate n) hc',
    withoutEscapes_cons fun heq => absurd heq hc]

theorem withoutEscapes_replicate (n : Nat) :
    withoutEscapes (List.replicate n backslash) = List.replicate n backslash := by
  cases n with
  | zero => rfl
  | succ n =>
    rw [List.replicate_succ', withoutEscapes_append (openBracket_not_mem_replicate n) (by decide)]
    rfl

/-! ## What is shown -/

/-- The markup shows as a text, wherever it stands and whatever tags come before, however tags are
matched. -/
def Shows (markup shown : Text) : Prop :=
  ∀ matching position bodies, renderPieces matching position bodies (pieces markup) = .ok shown

theorem showPlain_bracket (n : Nat) :
    showPlain n openBracket = List.replicate (n - 1) backslash ++ [openBracket] := by
  rw [showPlain, if_pos rfl]

theorem showPlain_other (h : c ≠ openBracket) (n : Nat) :
    showPlain n c = List.replicate n backslash ++ [c] := by
  rw [showPlain, if_neg h]

theorem shows_plain (hc : c ≠ backslash) (hc' : c = openBracket → ¬ OpensTag rest) (h : Shows rest shown)
    (n : Nat) : Shows (List.replicate n backslash ++ c :: rest) (showPlain n c ++ shown) := by
  have hpieces : pieces (List.replicate n backslash ++ c :: rest) = .plain n c :: pieces rest := by
    rw [pieces_replicate]
    by_cases hopen : c = openBracket
    · subst hopen
      rw [piecesAfter_bracket (hc' rfl), pieces]
    · rw [piecesAfter_plain hc hopen, pieces]
  intro matching position bodies
  rw [hpieces, renderPieces, h]

theorem shows_other (hc : c ≠ backslash) (hc' : c ≠ openBracket) (h : Shows rest shown) (n : Nat) :
    Shows (List.replicate n backslash ++ c :: rest) (List.replicate n backslash ++ c :: shown) := by
  have hshows := shows_plain hc (fun heq => absurd heq hc') h n
  rwa [showPlain_other hc', List.append_assoc, List.singleton_append] at hshows

/-- An escaped tag is plain text. -/
theorem shows_tag (hbody : IsBody body) (h : Shows after shown) (n : Nat) :
    Shows (List.replicate (2 * n + 1) backslash ++ openBracket :: (body ++ closeBracket :: after))
      (List.replicate n backslash ++ openBracket :: (body ++ closeBracket :: shown)) := by
  intro matching position bodies
  have hodd : (2 * n + 1) % 2 = 1 := by omega
  have hhalf : (2 * n + 1) / 2 = n := by omega
  rw [pieces_replicate, piecesAfter_tag hbody, ← pieces, renderPieces]
  simp only [hodd, if_true, hhalf, h matching _ bodies, bracketed, List.append_assoc, List.cons_append,
    List.nil_append]

theorem shows_nil : Shows [] [] := by
  intro matching position bodies
  rw [pieces, piecesAfter, if_pos rfl, renderPieces]

/-- At the end, all backslashes are before a quote. -/
theorem shows_closing (n e : Nat) :
    Shows (List.replicate n backslash ++ closing e) (List.replicate n backslash ++ closing e) := by
  have hshows := shows_other (c := 0x22) (by decide) (by decide) shows_nil (n + e)
  rwa [← List.replicate_append_replicate, List.append_assoc] at hshows

/-- By induction along the pieces: each shows as it was, but for the backslash before a bracket. -/
theorem shows_escapedAfter (n : Nat) (t : Text) (e : Nat) :
    Shows (escapedAfter n t ++ closing e)
      (withoutEscapes (List.replicate n backslash ++ t) ++ closing e) := by
  induction n, t using scanInduct with
  | nil n =>
    rw [escapedAfter_nil, List.append_nil, withoutEscapes_replicate]
    exact shows_closing n e
  | slash n rest ih =>
    rw [escapedAfter_backslash, replicate_backslash_append]
    exact ih
  | tag n body after h ih =>
    rw [escapedAfter_tag h, withoutEscapes_tag h]
    simpa using shows_tag h ih n
  | bracket n rest h ih =>
    rw [escapedAfter_bracket h, withoutEscapes_bracket h]
    -- escaping the rest, and the quote behind it, cannot turn the bracket into the beginning of a tag
    have hopens : ¬ OpensTag (escapedAfter 0 rest ++ closing e) := (opensTag_escaped_iff e).not.mpr h
    have hshows := shows_plain (c := openBracket) (by decide) (fun _ => hopens) ih n
    rw [showPlain_bracket] at hshows
    simpa using hshows
  | plain n c rest hc hc' ih =>
    rw [escapedAfter_plain hc hc', withoutEscapes_plain hc hc']
    simpa using shows_other hc hc' ih n

/-! ## The last backslash -/

theorem endsWithOneBackslash_append (hc : c ≠ backslash) :
    endsWithOneBackslash (u ++ c :: v) = endsWithOneBackslash v := by
  have hstop : (c :: u.reverse).takeWhile (· = backslash) = [] := by simp [hc]
  have hlast : (u ++ c :: v).reverse = v.reverse ++ c :: u.reverse := by simp
  rw [endsWithOneBackslash, endsWithOneBackslash, hlast, List.takeWhile_append, hstop]
  split
  · rename_i h
    rw [List.append_nil, h]
  · rfl

/-- What stands last, escaping leaves as it is. -/
theorem endsWithOneBackslash_escapedAfter (n : Nat) (t : Text) :
    endsWithOneBackslash (escapedAfter n t) =
      endsWithOneBackslash (List.replicate n backslash ++ t) := by
  induction n, t using scanInduct with
  | nil n => rw [escapedAfter_nil, List.append_nil]
  | slash n rest ih =>
    rw [escapedAfter_backslash, ih, replicate_backslash_append]
  | tag n body after h ih =>
    -- the bracket that closes the tag is no backslash, so what stands before it does not matter
    have hclose : ∀ m later, List.replicate m backslash ++ openBracket :: (body ++ closeBracket :: later) =
        (List.replicate m backslash ++ openBracket :: body) ++ closeBracket :: later := by simp
    rw [escapedAfter_tag h, hclose, hclose, endsWithOneBackslash_append (by decide),
      endsWithOneBackslash_append (by decide), ih]
    rfl
  | bracket n rest h ih =>
    rw [escapedAfter_bracket h, endsWithOneBackslash_append (by decide),
      endsWithOneBackslash_append (by decide), ih]
    rfl
  | plain n c rest hc hc' ih =>
    rw [escapedAfter_plain hc hc', endsWithOneBackslash_append hc, endsWithOneBackslash_append hc, ih]
    rfl

/-! ## Texts in quotes -/

/-- How many backslashes stand before the last quote that are none of the text's. -/
def addedBackslashes (t : Text) : Nat :=
  if endsWithOneBackslash t then 1 else 0

theorem quote_eq (t : Text) :
    quote t = 0x22 :: (escapedAfter 0 t ++ closing (addedBackslashes t)) := by
  have hends : endsWithOneBackslash (escapedAfter 0 t) = endsWithOneBackslash t :=
    endsWithOneBackslash_escapedAfter 0 t
  rw [quote, escape, pieces, ← escapedAfter]
  simp only [hends, addedBackslashes, closing]
  split <;> simp

theorem shows_of_no_bracket (n : Nat) (h : openBracket ∉ t) :
    Shows (List.replicate n backslash ++ t) (List.replicate n backslash ++ t) := by
  induction n, t using scanInduct with
  | nil n =>
    cases n with
    | zero => exact shows_nil
    | succ n =>
      intro matching position bodies
      rw [pieces_replicate, List.append_nil, piecesAfter, if_neg (Nat.succ_ne_zero n)]
      simp only [renderPieces, List.append_nil]
  | slash n rest ih =>
    rw [replicate_backslash_append]
    exact ih (List.not_mem_of_not_mem_cons h)
  | tag n body after => exact absurd List.mem_cons_self h
  | bracket n rest => exact absurd List.mem_cons_self h
  | plain n c rest hc hc' ih =>
    exact shows_other hc hc' (ih (List.not_mem_of_not_mem_cons h)) n

variable {matching : Matching}

/-- The pieces of a text without brackets need not be gone through. -/
theorem render_of_shows (h : Shows t shown) : render matching t = .ok shown := by
  rw [render]
  split
  · exact h matching 0 []
  · rename_i hno
    have hself : Shows t t := shows_of_no_bracket 0 (by simpa using hno)
    rw [← h matching 0 [], hself matching 0 []]

/-- A text in quotes shows without the backslashes that are dropped, and with one more before the last
quote if one was added there. -/
theorem render_quote (t : Text) :
    render matching (quote t) =
      .ok (0x22 :: (withoutEscapes t ++ closing (addedBackslashes t))) := by
  rw [quote_eq]
  exact render_of_shows
    (shows_other (c := 0x22) (by decide) (by decide) (shows_escapedAfter 0 t (addedBackslashes t)) 0)

/-! ## Texts that are shown as they are -/

/-- Each backslash before a bracket is before a tag, and the text does not end with one backslash alone. -/
def Verbatim (t : Text) : Prop :=
  (∀ before after, t = before ++ backslash :: openBracket :: after → OpensTag after) ∧
    endsWithOneBackslash t = false

theorem withoutEscapes_eq_self
    (h : ∀ before after, t = before ++ backslash :: openBracket :: after → OpensTag after) :
    withoutEscapes t = t := by
  induction t with
  | nil => rfl
  | cons c rest ih =>
    rw [withoutEscapes_cons fun hc after hafter => h [] after (by rw [hc, hafter, List.nil_append]),
      ih fun before after hrest => h (c :: before) after (by rw [hrest, List.cons_append])]

/-- If the text begins with what is left of it, then nothing is dropped: after the first backslash that is,
a bracket would stand in its place. -/
theorem opensTag_of_withoutEscapes_prefix (h : withoutEscapes t <+: t) :
    ∀ before after, t = before ++ backslash :: openBracket :: after → OpensTag after := by
  induction t with
  | nil => intro before after hnil; simp at hnil
  | cons c rest ih =>
    have hkept : c = backslash → ∀ after, rest = openBracket :: after → OpensTag after := by
      rintro rfl after rfl
      by_contra hno
      rw [withoutEscapes_dropped hno] at h
      exact absurd (List.cons_prefix_cons.mp h).1 (by decide)
    rw [withoutEscapes_cons hkept, List.cons_prefix_cons] at h
    intro before after heq
    cases before with
    | nil =>
      obtain ⟨hc, hrest⟩ := List.cons.inj heq
      exact hkept hc after hrest
    | cons d before => exact ih h.2 before after (List.cons.inj heq).2

theorem render_quote_verbatim_iff (t : Text) :
    render matching (quote t) = .ok (0x22 :: (t ++ [0x22])) ↔ Verbatim t := by
  rw [render_quote, Except.ok.injEq, List.cons.injEq, closing, ← List.append_assoc,
    List.append_left_inj]
  constructor
  · rintro ⟨-, h⟩
    have hopens := opensTag_of_withoutEscapes_prefix ⟨_, h⟩
    refine ⟨hopens, ?_⟩
    rw [withoutEscapes_eq_self hopens, List.append_right_eq_self, addedBackslashes] at h
    by_contra hends
    rw [if_pos (by simpa using hends)] at h
    cases h
  · rintro ⟨hopens, hends⟩
    refine ⟨rfl, ?_⟩
    rw [withoutEscapes_eq_self hopens, addedBackslashes, hends]
    simp

end Markup

namespace Screen

open Markup

/-- **A text in quotes on the console.** It is shown between two quotes, but without each backslash that
stands right before a bracket that begins no tag, and with one more at its end if it ends with one alone. So
just those texts are shown as they are in which there is neither; control characters and the console's line
breaks apart. -/
theorem line_quote (console : Console) (t : Text) :
    Markup.render console.matching (Markup.quote t) =
      .ok (0x22 :: (withoutEscapes t ++ List.replicate (addedBackslashes t) backslash ++ [0x22])) ∧
    Screen.line console (Markup.quote t) =
      .ok (console.wrap (Screen.shown
        (0x22 :: (withoutEscapes t ++ List.replicate (addedBackslashes t) backslash ++ [0x22]))) ++
          [0x0A]) ∧
    (Markup.render console.matching (Markup.quote t) = .ok (0x22 :: (t ++ [0x22])) ↔ Verbatim t) := by
  have hrender : Markup.render console.matching (Markup.quote t) = _ := render_quote t
  rw [closing, ← List.append_assoc] at hrender
  refine ⟨hrender, ?_, render_quote_verbatim_iff t⟩
  rw [Screen.line, hrender]

/-- A backslash before a bracket is not shown, and one at the end is shown twice. -/
theorem line_quote_backslash :
    (Screen.line .wide (Markup.quote [backslash, openBracket]) = .ok [0x22, openBracket, 0x22, 0x0A] ∧
      Screen.line .wide (Markup.quote [backslash, openBracket]) ≠
        .ok (0x22 :: [backslash, openBracket] ++ [0x22, 0x0A])) ∧
    Screen.line .wide (Markup.quote [0x31, backslash]) =
      .ok [0x22, 0x31, backslash, backslash, 0x22, 0x0A] ∧
    Screen.line .wide (Markup.quote [0x31, backslash]) ≠
      .ok (0x22 :: [0x31, backslash] ++ [0x22, 0x0A]) := by
  have hbracket : Screen.line .wide (Markup.quote [backslash, openBracket]) =
      .ok [0x22, openBracket, 0x22, 0x0A] := by
    rw [Screen.line, render_quote]
    decide
  have hlast : Screen.line .wide (Markup.quote [0x31, backslash]) =
      .ok [0x22, 0x31, backslash, backslash, 0x22, 0x0A] := by
    rw [Screen.line, render_quote]
    decide
  refine ⟨⟨hbracket, ?_⟩, hlast, ?_⟩
  · rw [hbracket]
    decide
  · rw [hlast]
    decide

end Screen
end TypedText
