import Mathlib.Data.List.Forall2
import TypedText.Capitalize
import TypedText.Proofs.Text.Cuts

/-!
# TypedText.Proofs.CaseCalls

What a case mapper is asked, whatever it answers. Words are handed over one code point at a time, each with
the case that the code point before it asks for; the other variants hand over the first code point, whose pair
is never cut, and at most the rest of the text.

* `CaseCall.answer`, `CaseCall.Answered`: one call and what the mapper says to it, and a row of them.
* `runAll_append`, `callsOf_append`: steps that have been carried out, and those that follow.
* `runAll_congr`: mappers that agree on the calls of one of them are asked the same and lead to the same text.
* `CaseCall.eachWord`: the calls for the words of a text.
* `Text.FirstCut`: the first code point of a text and what follows it.
* `mapper_calls`: the calls of the three variants, with what they make of the answers.
-/

namespace TypedText

namespace CaseCall

def answer (m : CaseMapper) (call : CaseCall) : Except TextError Text :=
  m.map call.target call.locale call.span

/-- The mapper answers the calls with these texts. -/
def Answered (m : CaseMapper) : List CaseCall → List Text → Prop :=
  List.Forall₂ fun call s => call.answer m = .ok s

/-- The step of a plan that makes this call. -/
def step (call : CaseCall) : CaseStep :=
  .change call.target call.span

/-- The call for a code point: in upper case if there is none before it, or a separator. -/
def ofWord (separators : Separators) (l : Locale) (before : Option CodePoint) (c : CodePoint) :
    CaseCall :=
  ⟨if before.all fun b => separators.contains b.val then .upper else .lower, [c], l⟩

/-- One call for each code point, with the one before it. -/
def eachWord (separators : Separators) (l : Locale) (cs : List CodePoint) : List CaseCall :=
  List.zipWith (ofWord separators l) (none :: cs.map some) cs

end CaseCall

namespace CaseStep

variable {m : CaseMapper} {l : Locale} {fault? : Option TextError} {done steps : List CaseStep}
  {texts : List Text} {calls : List CaseCall}

/-- The steps can be carried out, and give these texts. -/
def Gives (m : CaseMapper) (l : Locale) : List CaseStep → List Text → Prop :=
  List.Forall₂ fun s t => s.run m l = .ok t

theorem runAll_append (h : Gives m l done texts) (rest : List CaseStep) :
    runAll m l fault? (done ++ rest) = (runAll m l fault? rest).map (texts.flatten ++ ·) := by
  induction h with
  | nil => cases hr : runAll m l fault? rest <;> simp [hr, Except.map]
  | cons hs _ ih =>
    simp only [List.cons_append, runAll, hs, ih]
    cases runAll m l fault? rest <;> simp [Except.map]

theorem callsOf_append (h : Gives m l done texts) (rest : List CaseStep) :
    callsOf m l (done ++ rest) = done.filterMap (call? l) ++ callsOf m l rest := by
  induction h with
  | nil => rfl
  | @cons s t done texts hs _ ih =>
    simp only [List.cons_append, callsOf, hs, ih, List.filterMap_cons]
    cases s.call? l <;> simp

/-- A mapper that answers the calls in the same way is asked the same, and leads to the same text. -/
theorem runAll_congr {m' : CaseMapper}
    (h : ∀ call ∈ callsOf m l steps, call.answer m' = call.answer m) :
    runAll m' l fault? steps = runAll m l fault? steps ∧ callsOf m' l steps = callsOf m l steps := by
  induction steps with
  | nil => exact ⟨rfl, rfl⟩
  | cons s rest ih =>
    simp only [callsOf, List.forall_mem_append] at h
    obtain ⟨hcall, hrest⟩ := h
    have hs : s.run m' l = s.run m l := by
      cases s with
      | change target span => exact hcall ⟨target, span, l⟩ (List.mem_singleton.mpr rfl)
      | keep units => rfl
    cases hrun : s.run m l with
    | error e => simp [runAll, callsOf, hs, hrun]
    | ok t =>
      rw [hrun] at hrest
      obtain ⟨hsame, hcalls⟩ := ih hrest
      simp [runAll, callsOf, hs, hrun, hsame, hcalls]

theorem gives_calls (h : CaseCall.Answered m calls texts) (hl : ∀ call ∈ calls, call.locale = l) :
    Gives m l (calls.map CaseCall.step) texts := by
  induction h with
  | nil => exact .nil
  | cons hs _ ih =>
    rw [List.forall_mem_cons] at hl
    obtain ⟨rfl, hl⟩ := hl
    exact .cons hs (ih hl)

theorem filterMap_calls (hl : ∀ call ∈ calls, call.locale = l) :
    (calls.map CaseCall.step).filterMap (call? l) = calls := by
  induction calls with
  | nil => rfl
  | cons call calls ih =>
    rw [List.forall_mem_cons] at hl
    obtain ⟨rfl, hl⟩ := hl
    rw [List.map_cons, List.filterMap_cons, ih hl]
    rfl

end CaseStep

namespace CaseCall

theorem locale_of_mem (separators : Separators) (l : Locale) (before : List (Option CodePoint))
    (cs : List CodePoint) :
    ∀ call ∈ List.zipWith (ofWord separators l) before cs, call.locale = l := by
  induction cs generalizing before with
  | nil => simp
  | cons c cs ih =>
    cases before with
    | nil => simp
    | cons b before =>
      rw [List.zipWith_cons_cons, List.forall_mem_cons]
      exact ⟨rfl, ih before⟩

/-- By induction on the code points; what is carried from one to the next is whether it is a separator. -/
theorem eachWordSteps_eq (separators : Separators) (l : Locale) (before : Option CodePoint)
    (cs : List CodePoint) :
    CasePlan.eachWordSteps separators (before.all fun b => separators.contains b.val) cs =
      (List.zipWith (ofWord separators l) (before :: cs.map some) cs).map step := by
  induction cs generalizing before with
  | nil => rfl
  | cons c cs ih =>
    rw [CasePlan.eachWordSteps, List.map_cons, List.zipWith_cons_cons, List.map_cons, ← ih (some c)]
    rfl

end CaseCall

namespace CasePlan

variable {m : CaseMapper} {l : Locale} {separators : Separators} {cs : List CodePoint}
  {fault? : Option TextError} {done rest : List CaseCall} {call : CaseCall} {texts : List Text}

theorem eachWord_answered (fault? : Option TextError)
    (h : CaseCall.Answered m (CaseCall.eachWord separators l cs) texts) :
    calls ⟨eachWordSteps separators true cs, fault?⟩ m l = CaseCall.eachWord separators l cs ∧
      run ⟨eachWordSteps separators true cs, fault?⟩ m l =
        match fault? with
        | some e => .error e
        | none => .ok texts.flatten := by
  have hlocale : ∀ call ∈ CaseCall.eachWord separators l cs, call.locale = l :=
    CaseCall.locale_of_mem separators l _ cs
  have hgives := CaseStep.gives_calls h hlocale
  have hsteps : eachWordSteps separators true cs =
      (CaseCall.eachWord separators l cs).map CaseCall.step ++ [] := by
    rw [List.append_nil]
    exact CaseCall.eachWordSteps_eq separators l none cs
  rw [calls, run, hsteps, CaseStep.callsOf_append hgives, CaseStep.runAll_append hgives]
  constructor
  · rw [CaseStep.filterMap_calls hlocale, CaseStep.callsOf, List.append_nil]
  · cases fault? <;> simp [CaseStep.runAll, Except.map]

theorem eachWord_refused {e : TextError}
    (hcalls : CaseCall.eachWord separators l cs = done ++ call :: rest)
    (h : CaseCall.Answered m done texts) (hcall : call.answer m = .error e) :
    calls ⟨eachWordSteps separators true cs, fault?⟩ m l = done ++ [call] ∧
      run ⟨eachWordSteps separators true cs, fault?⟩ m l = .error e := by
  have hlocale : ∀ c ∈ CaseCall.eachWord separators l cs, c.locale = l :=
    CaseCall.locale_of_mem separators l _ cs
  rw [hcalls, List.forall_mem_append, List.forall_mem_cons] at hlocale
  obtain ⟨hdone, rfl, -⟩ := hlocale
  have hgives := CaseStep.gives_calls h hdone
  have hsteps : eachWordSteps separators true cs =
      done.map CaseCall.step ++ call.step :: rest.map CaseCall.step := by
    rw [← List.map_cons, ← List.map_append, ← hcalls]
    exact CaseCall.eachWordSteps_eq separators call.locale none cs
  have hstep : call.step.run m call.locale = .error e := hcall
  rw [calls, run, hsteps, CaseStep.callsOf_append hgives, CaseStep.runAll_append hgives]
  constructor
  · rw [CaseStep.filterMap_calls hdone, CaseStep.callsOf, hstep]
    rfl
  · rw [CaseStep.runAll, hstep]
    rfl

end CasePlan

namespace Text

/-- The units of the first code point of a text, and those behind them; a text of at most one unit is not
looked into. -/
structure FirstCut (t head rest : Text) : Prop where
  append : head ++ rest = t
  short : t.length ≤ 1 → rest = []
  stores : 2 ≤ t.length → ∃ c, Stores head c

variable {t head rest : Text} {after : Text → CaseStep} {m : CaseMapper} {l : Locale}

namespace FirstCut

theorem spans (h : FirstCut t head rest) (hlen : 2 ≤ t.length) : ∃ c, Spans t 0 head.length [c] := by
  obtain ⟨c, hc⟩ := h.stores hlen
  have hspans := Spans.of_drop (t := t) (i := 0) h.append.symm (Nat.zero_le _) (.one hc)
  rw [Nat.zero_add] at hspans
  exact ⟨c, hspans⟩

theorem not_insidePair (h : FirstCut t head rest) : ¬ t.InsidePair head.length := by
  intro hinside
  have hlt := hinside.1
  by_cases hlen : 2 ≤ t.length
  · obtain ⟨c, hc⟩ := h.spans hlen
    exact hc.not_unpaired (hinside.unpaired_before hlt)
  · -- behind the one unit there is none that could be a half
    obtain ⟨-, -, hlow⟩ := hinside
    have hnone : t[head.length]? = none := by
      rw [List.getElem?_eq_none_iff]
      omega
    simp [lowAt, hnone] at hlow

theorem planAfterFirst (h : FirstCut t head rest) :
    t.planAfterFirst after =
      ⟨.change .upper head :: if 2 ≤ t.length then [after rest] else [], none⟩ := by
  by_cases hlen : 2 ≤ t.length
  · obtain ⟨c, hc⟩ := h.spans hlen
    have hadvance : t.advance 0 1 = .ok head.length :=
      (advance_eq_ok_iff (Nat.zero_le _)).mpr ⟨[c], rfl, hc⟩
    have htake : t.take head.length = head := by rw [← h.append, List.take_left]
    have hdrop : t.drop head.length = rest := by rw [← h.append, List.drop_left]
    rw [Text.planAfterFirst, if_neg (by omega), if_pos hlen, hadvance]
    simp only [htake, hdrop]
  · have hhead : head = t := by rw [← h.append, h.short (by omega), List.append_nil]
    rw [Text.planAfterFirst, if_pos (by omega), if_neg hlen, hhead]

end FirstCut

theorem firstCut_cases (t : Text) (after : Text → CaseStep) :
    (∃ head rest, FirstCut t head rest) ∨ ∃ e, t.planAfterFirst after = ⟨[], some e⟩ := by
  by_cases hlen : t.length ≤ 1
  · exact .inl ⟨t, [], List.append_nil t, fun _ => rfl, fun h => absurd h (by omega)⟩
  · cases t with
    | nil => simp at hlen
    | cons u rest =>
      rcases advance_one u rest with ⟨c, k, hc, -⟩ | ⟨k, hadvance⟩
      · exact .inl ⟨_, _, List.take_append_drop k _, fun h => absurd h hlen,
          fun _ => ⟨c, hc.encodes_take.stores_of_one⟩⟩
      · exact .inr ⟨_, by rw [Text.planAfterFirst, if_neg hlen, hadvance]⟩

theorem runAll_cons_eq_ok_iff {fault? : Option TextError} {step : CaseStep} {steps : List CaseStep}
    {s : Text} :
    CaseStep.runAll m l fault? (step :: steps) = .ok s ↔
      ∃ a b, step.run m l = .ok a ∧ CaseStep.runAll m l fault? steps = .ok b ∧ s = a ++ b := by
  rw [CaseStep.runAll]
  cases step.run m l with
  | error e => simp
  | ok a => cases CaseStep.runAll m l fault? steps <;> simp [eq_comm]

/-- A plan that starts with the first code point gives a text if there is one, the mapper answers for it, and
the steps behind it can be carried out. -/
theorem run_planAfterFirst_eq_ok_iff {s : Text} :
    (t.planAfterFirst after).run m l = .ok s ↔
      ∃ head rest a b, FirstCut t head rest ∧ m.uppercase l head = .ok a ∧
        CaseStep.runAll m l none (if 2 ≤ t.length then [after rest] else []) = .ok b ∧
        s = a ++ b := by
  constructor
  · intro h
    rcases t.firstCut_cases after with ⟨head, rest, hcut⟩ | ⟨e, hplan⟩
    · rw [CasePlan.run, hcut.planAfterFirst, runAll_cons_eq_ok_iff] at h
      obtain ⟨a, b, ha, hb, hs⟩ := h
      exact ⟨head, rest, a, b, hcut, ha, hb, hs⟩
    · rw [CasePlan.run, hplan, CaseStep.runAll] at h
      cases h
  · rintro ⟨head, rest, a, b, hcut, ha, hb, hs⟩
    rw [CasePlan.run, hcut.planAfterFirst, runAll_cons_eq_ok_iff]
    exact ⟨a, b, ha, hb, hs⟩

theorem calls_planAfterFirst {a : Text} (h : FirstCut t head rest) (ha : m.uppercase l head = .ok a) :
    (t.planAfterFirst after).calls m l =
      ⟨.upper, head, l⟩ :: CaseStep.callsOf m l (if 2 ≤ t.length then [after rest] else []) := by
  have hstep : (CaseStep.change .upper head).run m l = .ok a := ha
  rw [CasePlan.calls, h.planAfterFirst, CaseStep.callsOf, hstep]
  rfl

theorem runAll_keep_rest (h : FirstCut t head rest) :
    CaseStep.runAll m l none (if 2 ≤ t.length then [.keep rest] else []) = rest.joinPairs := by
  by_cases hlen : 2 ≤ t.length
  · rw [if_pos hlen]
    cases hjoin : rest.joinPairs <;> simp [CaseStep.runAll, CaseStep.run, hjoin]
  · rw [if_neg hlen, h.short (by omega)]
    rfl

theorem runAll_lower_rest :
    CaseStep.runAll m l none (if 2 ≤ t.length then [.change .lower rest] else []) =
      if 2 ≤ t.length then m.lowercase l rest else .ok [] := by
  by_cases hlen : 2 ≤ t.length
  · rw [if_pos hlen, if_pos hlen]
    cases hlower : m.lowercase l rest <;>
      simp [CaseStep.runAll, CaseStep.run, CaseMapper.map, hlower]
  · rw [if_neg hlen, if_neg hlen]
    rfl

theorem planEachWord_calls (m : CaseMapper) (t : Text) (separators : Separators) (l : Locale) :
    (∃ i, t.ReadsUpTo 0 t.length i t.reading.1) ∧
    (∀ texts, CaseCall.Answered m (CaseCall.eachWord separators l t.reading.1) texts →
      (t.planEachWord separators).calls m l = CaseCall.eachWord separators l t.reading.1 ∧
      (t.Paired → (t.planEachWord separators).run m l = .ok texts.flatten) ∧
      (¬ t.Paired → ReportsUnpaired ((t.planEachWord separators).run m l))) ∧
    ∀ done call rest texts e, CaseCall.eachWord separators l t.reading.1 = done ++ call :: rest →
      CaseCall.Answered m done texts → call.answer m = .error e →
      (t.planEachWord separators).calls m l = done ++ [call] ∧
        (t.planEachWord separators).run m l = .error e := by
  obtain ⟨i, cs, fault?, hupTo, hread, hfault⟩ :=
    exists_readsUpTo (Nat.zero_le t.length) (Nat.le_refl t.length)
  have hreading : t.reading = (cs, fault?) := Except.ok.inj ((readRange_whole t).symm.trans hread)
  rw [planEachWord, hreading]
  refine ⟨⟨i, hupTo⟩, ?_, ?_⟩
  · intro texts htexts
    obtain ⟨hcalls, hrun⟩ := CasePlan.eachWord_answered fault? htexts
    refine ⟨hcalls, ?_, ?_⟩
    · intro hpaired
      rcases hfault with ⟨rfl, -⟩ | ⟨-, j, hj⟩
      · exact hrun
      · exact absurd hj (hpaired j)
    · intro hpaired
      rcases hfault with ⟨-, hno⟩ | ⟨⟨u, j, rfl⟩, -⟩
      · exact absurd (fun j hj => hno ⟨j, hj⟩) hpaired
      · exact ⟨u, j, hrun⟩
  · intro done call rest texts e hcalls htexts hcall
    exact CasePlan.eachWord_refused hcalls htexts hcall

theorem run_planFirst_eq_ok_iff {s : Text} :
    t.planFirst.run m l = .ok s ↔
      ∃ head rest a b, FirstCut t head rest ∧ ¬ t.InsidePair head.length ∧
        t.planFirst.calls m l = [⟨.upper, head, l⟩] ∧
        m.uppercase l head = .ok a ∧ rest.joinPairs = .ok b ∧ s = a ++ b := by
  rw [planFirst, run_planAfterFirst_eq_ok_iff]
  refine exists_congr fun head => exists_congr fun rest => exists_congr fun a =>
    exists_congr fun b => ?_
  constructor
  · rintro ⟨hcut, ha, hb, hs⟩
    rw [runAll_keep_rest hcut] at hb
    refine ⟨hcut, hcut.not_insidePair, ?_, ha, hb, hs⟩
    rw [calls_planAfterFirst hcut ha]
    split <;> simp [CaseStep.callsOf, CaseStep.call?, CaseStep.run, hb]
  · rintro ⟨hcut, -, -, ha, hb, hs⟩
    exact ⟨hcut, ha, by rw [runAll_keep_rest hcut, hb], hs⟩

theorem run_planFirstLowerRest_eq_ok_iff {s : Text} :
    t.planFirstLowerRest.run m l = .ok s ↔
      ∃ head rest a b, FirstCut t head rest ∧ ¬ t.InsidePair head.length ∧
        t.planFirstLowerRest.calls m l =
          ⟨.upper, head, l⟩ :: (if 2 ≤ t.length then [⟨.lower, rest, l⟩] else []) ∧
        m.uppercase l head = .ok a ∧
        (if 2 ≤ t.length then m.lowercase l rest else .ok []) = .ok b ∧ s = a ++ b := by
  rw [planFirstLowerRest, run_planAfterFirst_eq_ok_iff]
  refine exists_congr fun head => exists_congr fun rest => exists_congr fun a =>
    exists_congr fun b => ?_
  rw [runAll_lower_rest]
  constructor
  · rintro ⟨hcut, ha, hb, hs⟩
    refine ⟨hcut, hcut.not_insidePair, ?_, ha, hb, hs⟩
    rw [calls_planAfterFirst hcut ha]
    split
    · rename_i hlen
      rw [if_pos hlen] at hb
      simp [CaseStep.callsOf, CaseStep.call?, CaseStep.run, CaseMapper.map, hb]
    · rfl
  · rintro ⟨hcut, -, -, ha, hb, hs⟩
    exact ⟨hcut, ha, hb, hs⟩

theorem FirstCut.flatten_spans (h : FirstCut t head rest) :
    ((⟨.upper, head, l⟩ :: if 2 ≤ t.length then [⟨.lower, rest, l⟩] else [] : List CaseCall).map
      CaseCall.span).flatten = t := by
  split
  · simpa using h.append
  · have hrest := h.short (by omega)
    simpa [hrest] using h.append

/-- **What a mapper is asked**, whichever it is. For words it is asked once for each code point up to the first
unpaired surrogate, unless it refuses an answer. For a text that starts with a capital it is asked for the
first code point, and for one that goes on in lower case also for the rest, so that nothing is left out and no
pair is cut. What it would say to any other question does not matter. -/
theorem mapper_calls (m : CaseMapper) (t : Text) (separators : Separators) (l : Locale) :
    ((∃ i, t.ReadsUpTo 0 t.length i t.reading.1) ∧
      (∀ texts, CaseCall.Answered m (CaseCall.eachWord separators l t.reading.1) texts →
        (t.planEachWord separators).calls m l = CaseCall.eachWord separators l t.reading.1 ∧
        (t.Paired → (t.planEachWord separators).run m l = .ok texts.flatten) ∧
        (¬ t.Paired → ReportsUnpaired ((t.planEachWord separators).run m l))) ∧
      ∀ done call rest texts e, CaseCall.eachWord separators l t.reading.1 = done ++ call :: rest →
        CaseCall.Answered m done texts → call.answer m = .error e →
        (t.planEachWord separators).calls m l = done ++ [call] ∧
          (t.planEachWord separators).run m l = .error e) ∧
    (∀ s, t.planFirst.run m l = .ok s ↔
      ∃ head rest a b, FirstCut t head rest ∧ ¬ t.InsidePair head.length ∧
        t.planFirst.calls m l = [⟨.upper, head, l⟩] ∧
        m.uppercase l head = .ok a ∧ rest.joinPairs = .ok b ∧ s = a ++ b) ∧
    (∀ s, t.planFirstLowerRest.run m l = .ok s ↔
      ∃ head rest a b, FirstCut t head rest ∧ ¬ t.InsidePair head.length ∧
        t.planFirstLowerRest.calls m l =
          ⟨.upper, head, l⟩ :: (if 2 ≤ t.length then [⟨.lower, rest, l⟩] else []) ∧
        m.uppercase l head = .ok a ∧
        (if 2 ≤ t.length then m.lowercase l rest else .ok []) = .ok b ∧ s = a ++ b) ∧
    (∀ s, t.planFirstLowerRest.run m l = .ok s →
      ((t.planFirstLowerRest.calls m l).map CaseCall.span).flatten = t) ∧
    ∀ (p : CasePlan) (m' : CaseMapper), (∀ call ∈ p.calls m l, call.answer m' = call.answer m) →
      p.run m' l = p.run m l ∧ p.calls m' l = p.calls m l := by
  refine ⟨planEachWord_calls m t separators l, fun s => run_planFirst_eq_ok_iff,
    fun s => run_planFirstLowerRest_eq_ok_iff, ?_, fun p m' h => CaseStep.runAll_congr h⟩
  intro s h
  obtain ⟨head, rest, a, b, hcut, -, hcalls, -⟩ := run_planFirstLowerRest_eq_ok_iff.mp h
  rw [hcalls]
  exact hcut.flatten_spans

/-- A mapper that marks what it is handed, on two words with half of a pair behind them and on a text that
starts with a pair; and a mapper that has no lower case. -/
theorem mapper_calls_marking :
    ((planEachWord [0x61, 0x20, 0x62, 0xD83D] [0x20]).calls .marking none =
        [⟨.upper, [0x61], none⟩, ⟨.lower, [0x20], none⟩, ⟨.upper, [0x62], none⟩] ∧
      ReportsUnpaired ((planEachWord [0x61, 0x20, 0x62, 0xD83D] [0x20]).run .marking none)) ∧
    (∃ head rest a b, FirstCut [0xD83D, 0xDE00, 0x62] head rest ∧
      ¬ InsidePair [0xD83D, 0xDE00, 0x62] head.length ∧
      (planFirst [0xD83D, 0xDE00, 0x62]).calls .marking none = [⟨.upper, head, none⟩] ∧
      CaseMapper.marking.uppercase none head = .ok a ∧ rest.joinPairs = .ok b ∧
      Text.ofString "U(" ++ [0xD83D, 0xDE00] ++ Text.ofString ")b" = a ++ b) ∧
    (((planFirstLowerRest [0xD83D, 0xDE00, 0x62]).calls .marking none).map CaseCall.span).flatten =
      [0xD83D, 0xDE00, 0x62] ∧
    (planEachWord [0x61, 0x62, 0x63] []).calls ⟨fun _ t => .ok t, fun _ _ => .error .pastEnd⟩ none =
        [⟨.upper, [0x61], none⟩, ⟨.lower, [0x62], none⟩] ∧
      (planEachWord [0x61, 0x62, 0x63] []).run ⟨fun _ t => .ok t, fun _ _ => .error .pastEnd⟩ none =
        .error .pastEnd := by
  obtain ⟨⟨-, hwords, -⟩, -⟩ := mapper_calls .marking [0x61, 0x20, 0x62, 0xD83D] [0x20] none
  obtain ⟨-, hfirst, -, hspans, -⟩ := mapper_calls .marking [0xD83D, 0xDE00, 0x62] [] none
  obtain ⟨⟨-, -, hrefused⟩, -⟩ :=
    mapper_calls ⟨fun _ t => .ok t, fun _ _ => .error .pastEnd⟩ [0x61, 0x62, 0x63] [] none
  have hcalls : CaseCall.eachWord [0x20] none (reading [0x61, 0x20, 0x62, 0xD83D]).1 =
      [⟨.upper, [0x61], none⟩, ⟨.lower, [0x20], none⟩, ⟨.upper, [0x62], none⟩] := by
    decide +kernel
  rw [hcalls] at hwords
  have hmarked := hwords [Text.ofString "U(a)", Text.ofString "L( )", Text.ofString "U(b)"]
    (.cons rfl (.cons rfl (.cons rfl .nil)))
  refine ⟨⟨hmarked.1, hmarked.2.2 (by decide)⟩, (hfirst _).mp rfl, hspans _ rfl, ?_⟩
  exact hrefused [⟨.upper, [0x61], none⟩] ⟨.lower, [0x62], none⟩ [⟨.lower, [0x63], none⟩] [[0x61]]
    .pastEnd rfl (.cons rfl .nil) rfl

end Text
end TypedText
