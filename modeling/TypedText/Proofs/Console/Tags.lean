import TypedText.Proofs.Console.Verbatim

/-!
# TypedText.Proofs.Console.Tags

What a console shows of markup that is not escaped. Which text is shown does not depend on how tags are
matched, and whether anything is shown depends on the tags alone: each must be accepted after those before
it (`render_of_inOrder`, `exists_render_error`). A text is shown as it is if and only if no bracket in it
begins a tag or follows a backslash (`visible_eq_self_iff`), and of any other text some brackets or
backslashes are missing (`marks_visible_lt`).

* `Markup.tags`, `Markup.visible`: the tags of a text, and the text without them.
* `Markup.InOrder`: no tag among some is refused.
* `Markup.NoMarkup`: nothing in a text reads as markup.
* `Console.Lawful`: what is relied on of a console.
-/

namespace TypedText
namespace Markup

variable {t u rest body after : Text} {c : CodePoint} {n : Nat}

/-! ## Tags and what is around them -/

/-- The inside of the tag, if the piece is one: an odd number of backslashes makes it plain text. -/
def Piece.tags : Piece → List Text
  | .tag n body => if n % 2 = 1 then [] else [body]
  | _ => []

def Piece.visible : Piece → Text
  | .plain n c => showPlain n c
  | .tag n body => List.replicate (n / 2) backslash ++ if n % 2 = 1 then bracketed body else []
  | .trailing n => List.replicate n backslash

/-- The tags of a text, by what stands in them. -/
def tags (t : Text) : List Text :=
  (pieces t).flatMap Piece.tags

/-- What is shown of a text that follows a number of backslashes, where its tags are in order. -/
def visibleAfter (n : Nat) (t : Text) : Text :=
  (piecesAfter n t).flatMap Piece.visible

/-- The text without its tags, and without the backslashes that are not shown. -/
def visible (t : Text) : Text :=
  visibleAfter 0 t

/-- Whether no tag is refused after those before it. -/
def accepts (matching : Matching) : List Text → List Text → Bool
  | _, [] => true
  | before, body :: rest => (matching before body).isNone && accepts matching (before ++ [body]) rest

def InOrder (matching : Matching) (bodies : List Text) : Prop :=
  accepts matching [] bodies = true

instance (matching : Matching) (bodies : List Text) : Decidable (InOrder matching bodies) :=
  inferInstanceAs (Decidable (_ = true))

section Render

variable {matching : Matching} {position : Nat} {before : List Text} {ps : List Piece}

theorem renderPieces_plain :
    renderPieces matching position before (.plain n c :: ps) =
      (renderPieces matching (position + n + 1) before ps).map (showPlain n c ++ ·) := by
  rw [renderPieces]
  cases renderPieces matching (position + n + 1) before ps <;> rfl

theorem renderPieces_trailing :
    renderPieces matching position before (.trailing n :: ps) =
      (renderPieces matching (position + n) before ps).map (List.replicate n backslash ++ ·) := by
  rw [renderPieces]
  cases renderPieces matching (position + n) before ps <;> rfl

theorem renderPieces_escaped (h : n % 2 = 1) :
    renderPieces matching position before (.tag n body :: ps) =
      (renderPieces matching (position + n + body.length + 2) before ps).map
        (List.replicate (n / 2) backslash ++ bracketed body ++ ·) := by
  simp only [renderPieces, if_pos h]
  cases renderPieces matching (position + n + body.length + 2) before ps <;> rfl

theorem renderPieces_refused {e : Nat → MarkupError} (h : ¬ n % 2 = 1)
    (hrefused : matching before body = some e) :
    renderPieces matching position before (.tag n body :: ps) = .error (e (position + n)) := by
  simp only [renderPieces, if_neg h, hrefused]

theorem renderPieces_accepted (h : ¬ n % 2 = 1) (haccepted : matching before body = none) :
    renderPieces matching position before (.tag n body :: ps) =
      (renderPieces matching (position + n + body.length + 2) (before ++ [body]) ps).map
        (List.replicate (n / 2) backslash ++ ·) := by
  simp only [renderPieces, if_neg h, haccepted]
  cases renderPieces matching (position + n + body.length + 2) (before ++ [body]) ps <;> rfl

/-- By induction on the pieces, for all tags that may come before: the tags decide whether there is a
result, and what it is shows piece by piece. -/
theorem renderPieces_toOption (matching : Matching) (position : Nat) (before : List Text)
    (ps : List Piece) :
    (renderPieces matching position before ps).toOption =
      if accepts matching before (ps.flatMap Piece.tags) then some (ps.flatMap Piece.visible)
      else none := by
  induction ps generalizing position before with
  | nil => rfl
  | cons p rest ih =>
    have hprefix : ∀ (position : Nat) (before : List Text) (shown : Text),
        ((renderPieces matching position before rest).map (shown ++ ·)).toOption =
          if accepts matching before (rest.flatMap Piece.tags) then
            some (shown ++ rest.flatMap Piece.visible)
          else none := by
      intro position before shown
      have hmap : ((renderPieces matching position before rest).map (shown ++ ·)).toOption =
          (renderPieces matching position before rest).toOption.map (shown ++ ·) := by
        cases renderPieces matching position before rest <;> rfl
      rw [hmap, ih]
      split <;> rfl
    rw [List.flatMap_cons, List.flatMap_cons]
    cases p with
    | plain n c =>
      rw [renderPieces_plain]
      exact hprefix _ before _
    | trailing n =>
      rw [renderPieces_trailing]
      exact hprefix _ before _
    | tag n body =>
      rw [Piece.tags, Piece.visible]
      split
      · rename_i hodd
        rw [renderPieces_escaped hodd, List.nil_append]
        exact hprefix _ before _
      · rename_i heven
        rw [List.append_nil, List.singleton_append, accepts]
        cases hmatching : matching before body with
        | some e =>
          rw [renderPieces_refused heven hmatching]
          rfl
        | none =>
          rw [renderPieces_accepted heven hmatching]
          exact hprefix _ (before ++ [body]) _

/-- The pieces of a text without brackets need not be gone through. -/
theorem render_eq (matching : Matching) (t : Text) :
    render matching t = renderPieces matching 0 [] (pieces t) := by
  rw [render]
  split
  · rfl
  · rename_i hno
    exact (shows_of_no_bracket 0 (by simpa using hno) matching 0 []).symm

theorem render_toOption (matching : Matching) (t : Text) :
    (render matching t).toOption =
      if InOrder matching (tags t) then some (visible t) else none := by
  rw [render_eq, renderPieces_toOption]
  rfl

theorem render_of_inOrder (h : InOrder matching (tags t)) : render matching t = .ok (visible t) := by
  have hrender := render_toOption matching t
  rw [if_pos h] at hrender
  cases hresult : render matching t with
  | error e =>
    rw [hresult] at hrender
    cases hrender
  | ok shown =>
    rw [hresult] at hrender
    cases hrender
    rfl

theorem exists_render_error (h : ¬ InOrder matching (tags t)) :
    ∃ e, render matching t = .error e := by
  have hrender := render_toOption matching t
  rw [if_neg h] at hrender
  cases hresult : render matching t with
  | error e => exact ⟨e, rfl⟩
  | ok shown =>
    rw [hresult] at hrender
    cases hrender

end Render

/-! ## Texts one after another -/

/-- Nothing in the text is markup or makes markup plain. -/
def Clear (u : Text) : Prop :=
  ∀ c ∈ u, c ≠ backslash ∧ c ≠ openBracket

instance (u : Text) : Decidable (Clear u) :=
  inferInstanceAs (Decidable (∀ c ∈ u, c ≠ backslash ∧ c ≠ openBracket))

theorem pieces_tag (h : IsBody body) :
    pieces (openBracket :: (body ++ closeBracket :: after)) = .tag 0 body :: pieces after :=
  piecesAfter_tag h

theorem tags_tag (h : IsBody body) :
    tags (openBracket :: (body ++ closeBracket :: after)) = body :: tags after := by
  rw [tags, pieces_tag h]
  rfl

theorem visible_tag (h : IsBody body) :
    visible (openBracket :: (body ++ closeBracket :: after)) = visible after := by
  rw [visible, visibleAfter, ← pieces, pieces_tag h]
  rfl

theorem tags_clear (h : Clear u) : tags (u ++ rest) = tags rest := by
  induction u with
  | nil => rfl
  | cons c u ih =>
    obtain ⟨⟨hslash, hbracket⟩, hu⟩ := List.forall_mem_cons.mp h
    rw [List.cons_append, tags, pieces, piecesAfter_plain hslash hbracket, List.flatMap_cons]
    exact ih hu

theorem visible_clear (h : Clear u) : visible (u ++ rest) = u ++ visible rest := by
  induction u with
  | nil => rfl
  | cons c u ih =>
    obtain ⟨⟨hslash, hbracket⟩, hu⟩ := List.forall_mem_cons.mp h
    rw [List.cons_append, visible, visibleAfter, piecesAfter_plain hslash hbracket, List.flatMap_cons,
      Piece.visible, showPlain_other hbracket]
    exact congrArg (c :: ·) (ih hu)

/-- What follows can complete no tag unless the first bracket in it closes one. -/
theorem opensTag_append_iff (h : u.find? isBracket ≠ some closeBracket) :
    OpensTag (t ++ u) ↔ OpensTag t := by
  rw [opensTag_iff_brackets, opensTag_iff_brackets, List.find?_append, Option.or_eq_some_iff]
  cases t with
  | nil => simp [h]
  | cons c t => simp [h]

/-- By induction along the pieces of the first text: backslashes at its end go to the unit that follows,
all else stays as it was. -/
theorem flatMap_pieces_append {β : Type} {f : Piece → List β} (hc : c ≠ backslash) (hc' : c ≠ openBracket)
    (hf : ∀ n, f (.plain n c) = f (.trailing n) ++ f (.plain 0 c))
    (h : (c :: u).find? isBracket ≠ some closeBracket) (n : Nat) (t : Text) :
    (piecesAfter n (t ++ c :: u)).flatMap f =
      (piecesAfter n t).flatMap f ++ (pieces (c :: u)).flatMap f := by
  have hpieces : ∀ n, piecesAfter n (c :: u) = .plain n c :: piecesAfter 0 u :=
    fun _ => piecesAfter_plain hc hc'
  induction n, t using scanInduct with
  | nil n =>
    rw [List.nil_append, hpieces, pieces, hpieces, piecesAfter]
    split
    · rename_i hzero
      rw [hzero, List.flatMap_nil, List.nil_append]
    · rw [List.flatMap_cons, hf n, List.flatMap_singleton, List.append_assoc, List.flatMap_cons]
  | slash n rest ih => rw [List.cons_append, piecesAfter_backslash, piecesAfter_backslash, ih]
  | tag n body after hbody ih =>
    have hjoin : openBracket :: (body ++ closeBracket :: after) ++ c :: u =
        openBracket :: (body ++ closeBracket :: (after ++ c :: u)) := by simp
    rw [hjoin, piecesAfter_tag hbody, piecesAfter_tag hbody, List.flatMap_cons, List.flatMap_cons, ih,
      List.append_assoc]
  | bracket n rest hrest ih =>
    have hjoined : ¬ OpensTag (rest ++ c :: u) := (opensTag_append_iff h).not.mpr hrest
    rw [List.cons_append, piecesAfter_bracket hjoined, piecesAfter_bracket hrest, List.flatMap_cons,
      List.flatMap_cons, ih, List.append_assoc]
  | plain n d rest hd hd' ih =>
    rw [List.cons_append, piecesAfter_plain hd hd', piecesAfter_plain hd hd', List.flatMap_cons,
      List.flatMap_cons, ih, List.append_assoc]

theorem tags_append (hc : c ≠ backslash) (hc' : c ≠ openBracket)
    (h : (c :: u).find? isBracket ≠ some closeBracket) (t : Text) :
    tags (t ++ c :: u) = tags t ++ tags (c :: u) :=
  flatMap_pieces_append hc hc' (fun _ => rfl) h 0 t

theorem visible_append (hc : c ≠ backslash) (hc' : c ≠ openBracket)
    (h : (c :: u).find? isBracket ≠ some closeBracket) (t : Text) :
    visible (t ++ c :: u) = visible t ++ visible (c :: u) := by
  refine flatMap_pieces_append hc hc' (fun n => ?_) h 0 t
  rw [Piece.visible, Piece.visible, Piece.visible, showPlain_other hc', showPlain_other hc']
  rfl

/-! ## Texts that are shown as they are -/

/-- No bracket in the text begins a tag, and none follows a backslash. -/
def NoMarkup (t : Text) : Prop :=
  ∀ before after, t = before ++ openBracket :: after →
    ¬ OpensTag after ∧ before.getLast? ≠ some backslash

theorem noMarkup_of_not_mem (h : openBracket ∉ t) : NoMarkup t := by
  rintro before after rfl
  exact absurd (by simp) h

theorem noMarkup_cons_bracket_iff : NoMarkup (openBracket :: t) ↔ ¬ OpensTag t ∧ NoMarkup t := by
  constructor
  · refine fun h => ⟨(h [] t rfl).1, ?_⟩
    rintro before after rfl
    obtain ⟨hno, hlast⟩ := h (openBracket :: before) after rfl
    refine ⟨hno, fun heq => hlast ?_⟩
    rw [List.getLast?_cons, heq]
    rfl
  · rintro ⟨hno, h⟩ before after heq
    cases before with
    | nil =>
      obtain ⟨-, rfl⟩ := List.cons.inj heq
      exact ⟨hno, by simp⟩
    | cons c before =>
      obtain ⟨rfl, htail⟩ := List.cons.inj heq
      obtain ⟨hnext, hlast⟩ := h before after htail
      refine ⟨hnext, fun hslash => ?_⟩
      rw [List.getLast?_cons] at hslash
      cases hbefore : before.getLast? with
      | none =>
        rw [hbefore] at hslash
        exact absurd (Option.some.inj hslash) (by decide)
      | some d =>
        rw [hbefore] at hslash hlast
        exact hlast hslash

/-- Before a text, units that are no bracket are no markup unless a backslash comes to stand before one. -/
theorem noMarkup_append_iff (h : openBracket ∉ u) :
    NoMarkup (u ++ t) ↔ NoMarkup t ∧ (t.head? = some openBracket → u.getLast? ≠ some backslash) := by
  constructor
  · refine fun hno => ⟨?_, ?_⟩
    · rintro before after rfl
      obtain ⟨hopens, hlast⟩ := hno (u ++ before) after (List.append_assoc ..).symm
      refine ⟨hopens, fun hslash => hlast ?_⟩
      rw [List.getLast?_append, hslash]
      rfl
    · intro hhead
      obtain ⟨after, rfl⟩ := List.head?_eq_some_iff.mp hhead
      exact (hno u after rfl).2
  · rintro ⟨hno, hlast⟩ before after heq
    rcases List.append_eq_append_iff.mp heq with ⟨front, rfl, rfl⟩ | ⟨front, rfl, hfront⟩
    · obtain ⟨hopens, hslash⟩ := hno front after rfl
      refine ⟨hopens, ?_⟩
      rw [List.getLast?_append]
      cases front with
      | nil => simpa using hlast
      | cons c front =>
        rw [List.getLast?_cons] at hslash ⊢
        simpa using hslash
    · cases front with
      | nil =>
        rw [List.nil_append] at hfront
        subst hfront
        obtain ⟨hopens, -⟩ := hno [] after rfl
        exact ⟨hopens, by simpa using hlast⟩
      | cons c front =>
        obtain ⟨rfl, -⟩ := List.cons.inj hfront
        exact absurd (by simp) h

theorem noMarkup_bracket_iff (n : Nat) :
    NoMarkup (List.replicate n backslash ++ openBracket :: rest) ↔
      n = 0 ∧ ¬ OpensTag rest ∧ NoMarkup rest := by
  rw [noMarkup_append_iff (openBracket_not_mem_replicate n), noMarkup_cons_bracket_iff, and_comm]
  refine and_congr_left fun _ => ?_
  cases n with
  | zero => simp
  | succ n => simp [List.getLast?_replicate]

theorem noMarkup_plain_iff (hc : c ≠ backslash) (hc' : c ≠ openBracket) (n : Nat) :
    NoMarkup (List.replicate n backslash ++ c :: rest) ↔ NoMarkup rest := by
  have hfront : openBracket ∉ List.replicate n backslash ++ [c] := by
    simpa [hc'.symm] using openBracket_not_mem_replicate n
  rw [← List.singleton_append, ← List.append_assoc, noMarkup_append_iff hfront]
  simp [hc]

theorem visibleAfter_nil (n : Nat) : visibleAfter n [] = List.replicate n backslash := by
  cases n with
  | zero => simp [visibleAfter, piecesAfter]
  | succ n => simp [visibleAfter, piecesAfter, Piece.visible]

theorem visibleAfter_backslash (n : Nat) (rest : Text) :
    visibleAfter n (backslash :: rest) = visibleAfter (n + 1) rest := by
  rw [visibleAfter, piecesAfter_backslash, visibleAfter]

theorem visibleAfter_tag (h : IsBody body) :
    visibleAfter n (openBracket :: (body ++ closeBracket :: after)) =
      List.replicate (n / 2) backslash ++ ((if n % 2 = 1 then bracketed body else []) ++ visible after) := by
  rw [visibleAfter, piecesAfter_tag h, List.flatMap_cons, Piece.visible, List.append_assoc]
  rfl

theorem visibleAfter_bracket (h : ¬ OpensTag rest) :
    visibleAfter n (openBracket :: rest) =
      List.replicate (n - 1) backslash ++ openBracket :: visible rest := by
  rw [visibleAfter, piecesAfter_bracket h, List.flatMap_cons, Piece.visible, showPlain_bracket,
    List.append_assoc]
  rfl

theorem visibleAfter_plain (hc : c ≠ backslash) (hc' : c ≠ openBracket) :
    visibleAfter n (c :: rest) = List.replicate n backslash ++ c :: visible rest := by
  rw [visibleAfter, piecesAfter_plain hc hc', List.flatMap_cons, Piece.visible, showPlain_other hc',
    List.append_assoc]
  rfl

theorem replicate_backslash_sublist {m n : Nat} (h : m ≤ n) :
    (List.replicate m backslash).Sublist (List.replicate n backslash) := by
  rwa [List.replicate_sublist_iff, List.count_replicate_self]

/-- What is shown of a text stands in it, in this order. -/
theorem visibleAfter_sublist (n : Nat) (t : Text) :
    (visibleAfter n t).Sublist (List.replicate n backslash ++ t) := by
  induction n, t using scanInduct with
  | nil n => simp [visibleAfter_nil]
  | slash n rest ih => rwa [visibleAfter_backslash, replicate_backslash_append]
  | tag n body after h ih =>
    have hwhole : List.replicate n backslash ++ openBracket :: (body ++ closeBracket :: after) =
        List.replicate n backslash ++ (bracketed body ++ after) := by simp [bracketed]
    rw [visibleAfter_tag h, hwhole]
    refine (replicate_backslash_sublist (Nat.div_le_self n 2)).append (List.Sublist.append ?_ ih)
    split
    · exact List.Sublist.refl _
    · exact List.nil_sublist _
  | bracket n rest h ih =>
    rw [visibleAfter_bracket h]
    exact (replicate_backslash_sublist (Nat.sub_le n 1)).append (ih.cons_cons openBracket)
  | plain n c rest hc hc' ih =>
    rw [visibleAfter_plain hc hc']
    exact (List.Sublist.refl _).append (ih.cons_cons c)

theorem visible_sublist (t : Text) : (visible t).Sublist t :=
  visibleAfter_sublist 0 t

/-- The brackets that may begin tags, and the backslashes. -/
def marks (t : Text) : Nat :=
  t.count openBracket + t.count backslash

theorem marks_append (t u : Text) : marks (t ++ u) = marks t + marks u := by
  simp only [marks, List.count_append]
  omega

theorem marks_visible_le (t : Text) : marks (visible t) ≤ marks t :=
  Nat.add_le_add ((visible_sublist t).count_le _) ((visible_sublist t).count_le _)

theorem marks_replicate (n : Nat) : marks (List.replicate n backslash) = n := by
  have hne : (backslash == openBracket) = false := by decide
  simp [marks, List.count_replicate, hne]

theorem marks_bracket (t : Text) : marks (openBracket :: t) = marks t + 1 := by
  have hne : (openBracket == backslash) = false := by decide
  simp only [marks, List.count_cons_self, List.count_cons, hne]
  simp
  omega

/-- Either nothing reads as markup and all is shown, or some of the brackets and backslashes are not. -/
theorem visibleAfter_cases (n : Nat) (t : Text) :
    (NoMarkup (List.replicate n backslash ++ t) ∧
        visibleAfter n t = List.replicate n backslash ++ t) ∨
      (¬ NoMarkup (List.replicate n backslash ++ t) ∧
        marks (visibleAfter n t) < marks (List.replicate n backslash ++ t)) := by
  induction n, t using scanInduct with
  | nil n =>
    rw [visibleAfter_nil, List.append_nil]
    exact .inl ⟨noMarkup_of_not_mem (openBracket_not_mem_replicate n), rfl⟩
  | slash n rest ih => rwa [visibleAfter_backslash, replicate_backslash_append]
  | tag n body after h ih =>
    refine .inr ⟨fun hno => (hno _ _ rfl).1 ⟨body, after, h, rfl⟩, ?_⟩
    have hafter := marks_visible_le after
    have hwhole : openBracket :: (body ++ closeBracket :: after) = bracketed body ++ after := by
      simp [bracketed]
    have htag : 0 < marks (bracketed body) := by
      rw [bracketed, List.cons_append, marks_bracket]
      exact Nat.succ_pos _
    rw [visibleAfter_tag h, hwhole]
    simp only [marks_append, marks_replicate]
    split
    · omega
    · have hnil : marks [] = 0 := rfl
      omega
  | bracket n rest h ih =>
    have hrest : marks (visible rest) ≤ marks rest := marks_visible_le rest
    rw [visibleAfter_bracket h, noMarkup_bracket_iff]
    simp only [marks_append, marks_replicate, marks_bracket]
    cases n with
    | zero =>
      rcases ih with ⟨hno, hall⟩ | ⟨hmarkup, hlt⟩
      · refine .inl ⟨⟨rfl, h, hno⟩, ?_⟩
        exact congrArg (openBracket :: ·) hall
      · refine .inr ⟨fun hno => hmarkup hno.2.2, ?_⟩
        have hlt : marks (visible rest) < marks rest := hlt
        omega
    | succ n =>
      refine .inr ⟨fun hno => Nat.succ_ne_zero n hno.1, ?_⟩
      omega
  | plain n c rest hc hc' ih =>
    rw [visibleAfter_plain hc hc', noMarkup_plain_iff hc hc']
    rcases ih with ⟨hno, hall⟩ | ⟨hmarkup, hlt⟩
    · refine .inl ⟨hno, ?_⟩
      exact congrArg (List.replicate n backslash ++ c :: ·) hall
    · refine .inr ⟨hmarkup, ?_⟩
      have hlt : marks (visible rest) < marks rest := hlt
      rw [← List.singleton_append, ← List.singleton_append (l := rest)]
      simp only [marks_append]
      omega

theorem visible_eq_self (h : NoMarkup t) : visible t = t := by
  rcases visibleAfter_cases 0 t with ⟨-, hall⟩ | ⟨hmarkup, -⟩
  · exact hall
  · exact absurd h hmarkup

theorem marks_visible_lt (h : ¬ NoMarkup t) : marks (visible t) < marks t := by
  rcases visibleAfter_cases 0 t with ⟨hno, -⟩ | ⟨-, hlt⟩
  · exact absurd hno h
  · exact hlt

/-- A text is shown as it is if nothing in it reads as markup, and only then. -/
theorem visible_eq_self_iff : visible t = t ↔ NoMarkup t := by
  refine ⟨fun hall => ?_, visible_eq_self⟩
  by_contra hmarkup
  exact absurd (marks_visible_lt hmarkup) (by rw [hall]; exact Nat.lt_irrefl _)

theorem tagsAfter_eq_nil (n : Nat) (t : Text) (h : NoMarkup (List.replicate n backslash ++ t)) :
    (piecesAfter n t).flatMap Piece.tags = [] := by
  induction n, t using scanInduct with
  | nil n => cases n <;> simp [piecesAfter, Piece.tags]
  | slash n rest ih =>
    rw [piecesAfter_backslash]
    exact ih (by rwa [← replicate_backslash_append])
  | tag n body after hbody => exact absurd ⟨body, after, hbody, rfl⟩ (h _ _ rfl).1
  | bracket n rest hrest ih =>
    rw [piecesAfter_bracket hrest, List.flatMap_cons]
    exact ih ((noMarkup_bracket_iff n).mp h).2.2
  | plain n c rest hc hc' ih =>
    rw [piecesAfter_plain hc hc', List.flatMap_cons]
    exact ih ((noMarkup_plain_iff hc hc' n).mp h)

theorem tags_eq_nil (h : NoMarkup t) : tags t = [] :=
  tagsAfter_eq_nil 0 t h

end Markup

/-! ## Consoles -/

/-- What is relied on of a console. Opening tags are never refused, nor is the tag that closes the one right
before it; and a text is wrapped by breaking it, where blanks may go and what is wider than a line. -/
structure Console.Lawful (console : Console) : Prop where
  opens : ∀ before body, body.head? ≠ some Markup.slash → console.matching before body = none
  closes : ∀ before name, name ≠ [] → (∀ c ∈ name, Ascii.isSmall c = true) →
    console.matching (before ++ [name]) (Markup.slash :: name) = none
  wraps : ∀ t (c : CodePoint), 0x20 < c.val → c.val < 0x7F → (console.wrap t).count c = t.count c

namespace Markup

variable {name : Text}

theorem ne_slash_of_isSmall (hsmall : ∀ c ∈ name, Ascii.isSmall c = true) : name.head? ≠ some slash := by
  intro hhead
  exact absurd (hsmall slash (List.mem_of_mem_head? hhead)) (by decide)

theorem stylesAfter?_opening (styles : List Text) (h : body.head? ≠ some slash) :
    ∃ style, stylesAfter? styles body = some (style :: styles) := by
  rw [stylesAfter?]
  split
  · exact ⟨[], rfl⟩
  · rename_i c name hname
    have hc : c ≠ slash := by
      rintro rfl
      obtain ⟨rest, hrest⟩ : slash :: name <+: body := hname ▸ List.takeWhile_prefix _
      exact h (by rw [← hrest]; rfl)
    exact ⟨styleName (c :: name), if_neg hc⟩

theorem tagName_eq_self (hsmall : ∀ c ∈ name, Ascii.isSmall c = true) : tagName name = name := by
  refine List.takeWhile_eq_self_iff.mpr fun c hc => ?_
  have hc := hsmall c hc
  simp only [Ascii.isSmall, Bool.and_eq_true, decide_eq_true_eq] at hc
  simp
  omega

theorem trim_eq_self (hsmall : ∀ c ∈ name, Ascii.isSmall c = true) : trim name = name := by
  have hdrop : ∀ {t : Text}, (∀ c ∈ t, Ascii.isSmall c = true) → t.dropWhile isSpace = t := by
    intro t ht
    refine List.dropWhile_eq_self_iff.mpr fun hlen hspace => ?_
    have hfirst := ht _ (List.getElem_mem hlen)
    simp [Ascii.isSmall] at hfirst
    simp [isSpace] at hspace
    omega
  rw [trim, hdrop hsmall, hdrop (by simpa using hsmall), List.reverse_reverse]

theorem byName_opening (before : List Text) (h : body.head? ≠ some slash) : byName before body = none := by
  obtain ⟨style, hstyle⟩ := stylesAfter?_opening (openStyles before) h
  simp only [byName, hstyle]

theorem byName_closing (before : List Text) (hne : name ≠ [])
    (hsmall : ∀ c ∈ name, Ascii.isSmall c = true) : byName (before ++ [name]) (slash :: name) = none := by
  have htag := tagName_eq_self hsmall
  have hopened : openStyles (before ++ [name]) = styleName name :: openStyles before := by
    obtain ⟨c, rest, rfl⟩ := List.exists_cons_of_ne_nil hne
    have hc : c ≠ slash := fun heq => ne_slash_of_isSmall hsmall (by rw [heq]; rfl)
    rw [openStyles, List.foldl_append, List.foldl_cons, List.foldl_nil, ← openStyles]
    simp only [stylesAfter?, htag, if_neg hc, Option.getD_some]
  have hclosing : tagName (slash :: name) = slash :: name := by
    rw [tagName, List.takeWhile_cons_of_pos (by decide), ← tagName, htag]
  have hname : ¬ (trim name).isEmpty = true := by
    simpa [trim_eq_self hsmall] using hne
  simp only [byName, hopened, stylesAfter?, hclosing, if_true, if_neg hname, close?]

end Markup

theorem Console.lawful_wide : Console.wide.Lawful where
  opens before _ h := Markup.byName_opening before h
  closes before _ hne hsmall := Markup.byName_closing before hne hsmall
  wraps _ _ _ _ := rfl

namespace Console.Lawful

variable {console : Console} {name : Text}

theorem inOrder_pair (h : console.Lawful) (hne : name ≠ [])
    (hsmall : ∀ c ∈ name, Ascii.isSmall c = true) :
    Markup.InOrder console.matching [name, Markup.slash :: name] := by
  have hopens : console.matching [] name = none := h.opens [] name (Markup.ne_slash_of_isSmall hsmall)
  have hcloses : console.matching [name] (Markup.slash :: name) = none := h.closes [] name hne hsmall
  simp only [Markup.InOrder, Markup.accepts, List.nil_append, hopens, hcloses, Option.isNone_none,
    Bool.and_true]

theorem marks_wrap (h : console.Lawful) (t : Text) :
    Markup.marks (console.wrap t) = Markup.marks t := by
  rw [Markup.marks, h.wraps t _ (by decide) (by decide), h.wraps t _ (by decide) (by decide),
    Markup.marks]

end Console.Lawful

end TypedText
