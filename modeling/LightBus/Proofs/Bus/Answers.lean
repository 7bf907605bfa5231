import LightBus.Proofs.Bus.Reception
import LightBus.Proofs.Bus.Steps

/-!
# Reception without a break

After a request, and whenever a task begins to receive, the bus listens (`Bus.Listening`).  What comes then without a
break can only be the answer to a branch probe.  The slots `Hold` an answer, or they are `Spoilt`, or they can still
become one: `reply_cases`.  The first two stay as they are when more slots come, and so the chunks in which the
slots are read make no difference (`Bus.answer_of_chunks`).
-/

namespace LightBus

/-! ### What the slots can be -/

/-- An answer with `preamble` preamble bytes lies at the beginning of the slots. -/
def HoldsReply (s : List UInt8) (preamble : Nat) : Prop :=
  preamble ≤ maxPreambleLength ∧ ∃ body, s = List.replicate preamble preambleByte ++ separatorByte :: body ∧
    discoveryBodySize ≤ body.length

/-- The preamble is broken by another byte before any separator, or is too long. -/
def SpoiltReply (s : List UInt8) : Prop :=
  (∃ n x rest, s = List.replicate n preambleByte ++ x :: rest ∧ x ≠ preambleByte ∧ x ≠ separatorByte) ∨
  ∃ rest, s = List.replicate (maxPreambleLength + 1) preambleByte ++ rest

/-- The slots are no answer yet, but further slots can make one of them. -/
def OpenReply (s : List UInt8) : Prop := (∀ p, ¬HoldsReply s p) ∧ ∃ more p, HoldsReply (s ++ more) p

variable {s c : List UInt8} {p : Nat}

theorem HoldsReply.append (h : HoldsReply s p) (c : List UInt8) : HoldsReply (s ++ c) p := by
  obtain ⟨hp, body, rfl, hbody⟩ := h
  refine ⟨hp, body ++ c, by simp, ?_⟩
  rw [List.length_append]
  omega

theorem HoldsReply.size_le (h : HoldsReply s p) : p + 1 + discoveryBodySize ≤ s.length := by
  obtain ⟨-, body, rfl, hbody⟩ := h
  rw [List.length_append, List.length_replicate, List.length_cons]
  omega

theorem SpoiltReply.append (h : SpoiltReply s) (c : List UInt8) : SpoiltReply (s ++ c) := by
  rcases h with ⟨n, x, rest, rfl, hx⟩ | ⟨rest, rfl⟩
  · exact .inl ⟨n, x, rest ++ c, by simp, hx⟩
  · exact .inr ⟨rest ++ c, by simp⟩

private theorem exists_preamble (s : List UInt8) :
    ∃ n, s = List.replicate n preambleByte ∨
      ∃ x rest, s = List.replicate n preambleByte ++ x :: rest ∧ x ≠ preambleByte := by
  induction s with
  | nil => exact ⟨0, .inl rfl⟩
  | cons a s ih =>
    by_cases ha : a = preambleByte
    · obtain ⟨n, rfl | ⟨x, rest, rfl, hx⟩⟩ := ih
      · exact ⟨n + 1, .inl (by rw [ha, List.replicate_succ])⟩
      · exact ⟨n + 1, .inr ⟨x, rest, by rw [ha, List.replicate_succ, List.cons_append], hx⟩⟩
    · exact ⟨0, .inr ⟨a, s, rfl, ha⟩⟩

/-- Slots that can still become an answer: a preamble, or a part of what follows the separator as well. -/
inductive Unfinished : List UInt8 → Prop where
  | preamble {n : Nat} (hn : n ≤ maxPreambleLength) : Unfinished (List.replicate n preambleByte)
  | body {n : Nat} (hn : n ≤ maxPreambleLength) (body : List UInt8) (hbody : body.length < discoveryBodySize) :
    Unfinished (List.replicate n preambleByte ++ separatorByte :: body)

theorem reply_cases (s : List UInt8) : Unfinished s ∨ (∃ p, HoldsReply s p) ∨ SpoiltReply s := by
  obtain ⟨n, hs⟩ := exists_preamble s
  by_cases hn : n ≤ maxPreambleLength
  · rcases hs with rfl | ⟨x, rest, rfl, hx⟩
    · exact .inl (.preamble hn)
    · by_cases hsep : x = separatorByte
      · subst hsep
        by_cases hrest : rest.length < discoveryBodySize
        · exact .inl (.body hn rest hrest)
        · exact .inr (.inl ⟨n, hn, rest, rfl, by omega⟩)
      · exact .inr (.inr (.inl ⟨n, x, rest, rfl, hx, hsep⟩))
  · -- the first eight bytes are preamble bytes
    obtain ⟨k, rfl⟩ : ∃ k, n = maxPreambleLength + 1 + k := ⟨n - (maxPreambleLength + 1), by omega⟩
    refine .inr (.inr (.inr ?_))
    rcases hs with rfl | ⟨x, rest, rfl, -⟩
    · exact ⟨List.replicate k preambleByte, by rw [List.replicate_append_replicate]⟩
    · exact ⟨List.replicate k preambleByte ++ x :: rest, by
        rw [← List.append_assoc, List.replicate_append_replicate]⟩

theorem Unfinished.length_lt (h : Unfinished s) : s.length < maxPreambleLength + 1 + discoveryBodySize := by
  cases h with
  | preamble hn =>
    rw [List.length_replicate, discoveryBodySize]
    omega
  | body hn body hbody =>
    rw [List.length_append, List.length_replicate, List.length_cons]
    omega

private theorem Unfinished.exists_holdsReply (h : Unfinished s) : ∃ more p, HoldsReply (s ++ more) p := by
  cases h with
  | @preamble n hn =>
    exact ⟨separatorByte :: List.replicate discoveryBodySize 0, n, hn, _, rfl,
      Nat.le_of_eq List.length_replicate.symm⟩
  | @body n hn body hbody =>
    refine ⟨List.replicate discoveryBodySize 0, n, hn, body ++ List.replicate discoveryBodySize 0, by simp, ?_⟩
    rw [List.length_append, List.length_replicate]
    omega

/-! ### Telling the slots apart -/

private theorem takeWhile_preamble {n : Nat} (hn : n ≤ maxPreambleLength) {x : UInt8} (hx : x ≠ preambleByte)
    (rest : List UInt8) :
    ((List.replicate n preambleByte ++ x :: rest).take (maxPreambleLength + 1)).takeWhile (· == preambleByte) =
      List.replicate n preambleByte := by
  have hroom : maxPreambleLength + 1 - n = maxPreambleLength - n + 1 := by omega
  rw [List.take_append, List.length_replicate, List.take_of_length_le (by rw [List.length_replicate]; omega), hroom,
    List.take_succ_cons, List.takeWhile_append_of_pos (by simp), List.takeWhile_cons_of_neg (by simp [hx]),
    List.append_nil]

theorem separatorIndex?_separator {n : Nat} (hn : n ≤ maxPreambleLength) (body : List UInt8) :
    Discovery.separatorIndex? (List.replicate n preambleByte ++ separatorByte :: body) = some n := by
  have hx : separatorByte ≠ preambleByte := by decide
  rw [Discovery.separatorIndex?, takeWhile_preamble hn hx, List.length_replicate,
    List.getElem?_append_right (Nat.le_of_eq List.length_replicate)]
  simp [hn]

private theorem separatorIndex?_of_spoilt (h : SpoiltReply s) : Discovery.separatorIndex? s = none := by
  have hlong :
      ∀ rest, Discovery.separatorIndex? (List.replicate (maxPreambleLength + 1) preambleByte ++ rest) = none := by
    intro rest
    have hlong : ¬maxPreambleLength + 1 ≤ maxPreambleLength := Nat.not_succ_le_self _
    rw [Discovery.separatorIndex?, List.take_left' List.length_replicate, List.takeWhile_replicate]
    simp [hlong]
  rcases h with ⟨n, x, rest, rfl, hx, hsep⟩ | ⟨rest, rfl⟩
  · by_cases hn : n ≤ maxPreambleLength
    · rw [Discovery.separatorIndex?, takeWhile_preamble hn hx, List.length_replicate,
        List.getElem?_append_right (Nat.le_of_eq List.length_replicate)]
      simp [hsep]
    · obtain ⟨k, rfl⟩ : ∃ k, n = maxPreambleLength + 1 + k := ⟨n - (maxPreambleLength + 1), by omega⟩
      rw [← List.replicate_append_replicate, List.append_assoc]
      exact hlong _
  · exact hlong rest

private theorem head?_separated (n : Nat) (body : List UInt8) :
    (List.replicate n preambleByte ++ separatorByte :: body).head? = some preambleByte ∨
      (List.replicate n preambleByte ++ separatorByte :: body).head? = some separatorByte := by
  cases n with
  | zero => exact .inr rfl
  | succ n => exact .inl rfl

private theorem classifyReply_separated {n : Nat} (hn : n ≤ maxPreambleLength) (body : List UInt8) :
    classifyReply (List.replicate n preambleByte ++ separatorByte :: body) =
      if discoveryBodySize ≤ body.length then .complete .discoveryReply (n + 1 + discoveryBodySize)
      else .incomplete := by
  have hstart : ¬((List.replicate n preambleByte ++ separatorByte :: body).head? ≠ some preambleByte ∧
      (List.replicate n preambleByte ++ separatorByte :: body).head? ≠ some separatorByte) := by
    rcases head?_separated n body with h | h <;> simp only [h, ne_eq, not_true_eq_false, false_and, and_false,
      not_false_eq_true]
  rw [classifyReply, if_neg hstart, separatorIndex?_separator hn]
  dsimp only
  rw [List.length_append, List.length_replicate, List.length_cons]
  by_cases hbody : discoveryBodySize ≤ body.length
  · rw [if_pos hbody, if_pos (by omega)]
  · rw [if_neg hbody, if_neg (by omega)]

private theorem classify_of_ne_nil (h : s ≠ []) (g : Nat) : classify s false g = classifyReply s := by
  cases s with
  | nil => exact absurd rfl h
  | cons a s => rfl

theorem classify_of_holdsReply (h : HoldsReply s p) (g : Nat) :
    classify s false g = .complete .discoveryReply (p + 1 + discoveryBodySize) := by
  obtain ⟨hp, body, rfl, hbody⟩ := h
  rw [classify_of_ne_nil (by simp), classifyReply_separated hp, if_pos hbody]

theorem classify_of_unfinished (h : Unfinished s) (g : Nat) : classify s false g = .incomplete := by
  cases h with
  | @preamble n hn =>
    cases n with
    | zero => rfl
    | succ n =>
      have hnone : Discovery.separatorIndex? (List.replicate (n + 1) preambleByte) = none := by
        rw [Discovery.separatorIndex?, List.take_of_length_le (by rw [List.length_replicate]; omega),
          List.takeWhile_replicate]
        simp
      rw [classify_of_ne_nil (by simp), classifyReply, hnone]
      simp [hn, List.replicate_succ]
  | body hn body hbody =>
    rw [classify_of_ne_nil (by simp), classifyReply_separated hn, if_neg (by omega)]

theorem classify_of_spoilt (h : SpoiltReply s) (g : Nat) : classify s false g = .malformed .discoveryReply := by
  have hall : ¬((s.all (· == preambleByte) && decide (s.length ≤ maxPreambleLength)) = true) := by
    rw [Bool.and_eq_true, List.all_eq_true, decide_eq_true_eq]
    rintro ⟨hall, hlength⟩
    rcases h with ⟨n, x, rest, rfl, hx, -⟩ | ⟨rest, rfl⟩
    · exact hx (eq_of_beq (hall x (by simp)))
    · rw [List.length_append, List.length_replicate] at hlength
      omega
  have hne : s ≠ [] := by
    rcases h with ⟨n, x, rest, rfl, -⟩ | ⟨rest, rfl⟩ <;> simp [List.replicate_succ]
  rw [classify_of_ne_nil hne, classifyReply, separatorIndex?_of_spoilt h]
  dsimp only
  rw [if_neg hall, ite_self]

private theorem OpenReply.unfinished (h : OpenReply s) : Unfinished s := by
  obtain ⟨hnot, more, p, hmore⟩ := h
  rcases reply_cases s with hopen | ⟨q, hq⟩ | hspoilt
  · exact hopen
  · exact absurd hq (hnot q)
  · have hspoilt := classify_of_spoilt (hspoilt.append more) 0
    rw [classify_of_holdsReply hmore] at hspoilt
    cases hspoilt

theorem Unfinished.openReply (h : Unfinished s) : OpenReply s := by
  refine ⟨fun p hp => ?_, h.exists_holdsReply⟩
  have hopen := classify_of_unfinished h 0
  rw [classify_of_holdsReply hp] at hopen
  cases hopen

namespace Bus

variable {b : Bus} {chunks : List (List UInt8 × Nat)}

/-! ### Chunk by chunk -/

/-- The slots `s` have come without a break, and the reception is not over. -/
structure Unbroken (s : List UInt8) (b : Bus) : Prop where
  unfinished : b.frameFinished = false
  afterBreak : b.afterBreak = false
  buffer : b.frame.length = maxFrameSize
  cursor : b.cursor = s.length
  slots : b.frame.take s.length = s

/-- The reception of an answer is over. -/
def Answered (b : Bus) : Prop := b.rx = .failed ∨ b.rx = .complete ∧ b.rxKind = .discoveryReply

theorem Unbroken.gathered (h : Unbroken s b) : Gathered s b := ⟨h.unfinished, h.buffer, h.cursor, h.slots⟩

theorem Unbroken.advance (h : Unbroken s b) (hfits : (s ++ c).length ≤ maxFrameSize) :
    Unbroken (s ++ c) { (b.fill c).advance c.length with rx := .receiving } := by
  obtain ⟨hunfinished, hbuffer, hcursor, hslots⟩ := h.gathered.advance hfits
  exact ⟨hunfinished, h.afterBreak, hbuffer, hcursor, hslots⟩

theorem Unbroken.conclude_of_unfinished (h : Unbroken s b) (hs : Unfinished s) (now : Nat) :
    b.conclude false now = ([], b) := by
  have hlength := hs.length_lt
  have hroom : ¬s.length = maxFrameSize := by
    rw [maxFrameSize]
    rw [maxPreambleLength, discoveryBodySize] at hlength
    omega
  rw [Bus.conclude, h.afterBreak, h.cursor, h.slots, classify_of_unfinished hs]
  exact if_neg hroom

private theorem Unbroken.conclude_of_spoilt (h : Unbroken s b) (hs : SpoiltReply s) (now : Nat) :
    notices (b.conclude false now).1 = [⟨.collision, .receive, .discoveryReply, s.length, none⟩] ∧
      (b.conclude false now).2.rx = .failed := by
  have hfail : b.conclude false now = b.fail .collision .discoveryReply now := by
    rw [Bus.conclude, h.afterBreak, h.cursor, h.slots, classify_of_spoilt hs]
  rw [hfail, ← h.cursor]
  exact ⟨notices_finish _ _ _ now, rfl⟩

theorem Unbroken.conclude_of_holdsReply (h : Unbroken s b) (hs : HoldsReply s p) (now : Nat) :
    notices (b.conclude false now).1 =
        [⟨replyStatus (s.take (p + 1 + discoveryBodySize)), .receive, .discoveryReply, p + 1 + discoveryBodySize,
          none⟩] ∧
      (b.conclude false now).2.rx = .complete ∧ (b.conclude false now).2.rxKind = .discoveryReply := by
  have hsize := hs.size_le
  have hslots : b.frame.take (p + 1 + discoveryBodySize) = s.take (p + 1 + discoveryBodySize) := by
    rw [← Nat.min_eq_left hsize, ← List.take_take, h.slots, Nat.min_eq_left hsize]
  have hfinish : b.conclude false now = b.finishReply (p + 1 + discoveryBodySize) now := by
    rw [Bus.conclude, h.afterBreak, h.cursor, h.slots, classify_of_holdsReply hs]
  rw [hfinish, ← hslots]
  have hover := b.over_finishReply (p + 1 + discoveryBodySize) now
  exact ⟨hover.notices, hover.after.1, hover.after.2.1⟩

private theorem Answered.receive (h : b.Answered) (c : List UInt8) (now : Nat) :
    b.receive c now = ([], b.fill c) := by
  show (b.fill c).onReceived c.length now = _
  have hrx : (b.fill c).rx = b.rx := rfl
  have hkind : (b.fill c).rxKind = b.rxKind := rfl
  unfold onReceived
  rcases h with hfailed | ⟨hcomplete, hreply⟩
  · rw [hrx, hfailed]
  · rw [hrx, hcomplete, hkind, hreply]

private theorem Answered.receiveAll (h : b.Answered) (chunks : List (List UInt8 × Nat)) :
    notices (b.receiveAll chunks).1 = [] ∧ (b.receiveAll chunks).2.rx = b.rx := by
  induction chunks generalizing b with
  | nil => exact ⟨rfl, rfl⟩
  | cons chunk rest ih =>
    obtain ⟨c, now⟩ := chunk
    have hfill : (b.fill c).Answered := h
    obtain ⟨hquiet, hrx⟩ := ih hfill
    rw [Bus.receiveAll, h.receive c now]
    exact ⟨by rw [notices_append, hquiet]; rfl, hrx⟩

/-! ### Whole receptions -/

/-- What the slots of a reception without a break lead to: the notices, and the state of the reception. -/
inductive Outcome (s : List UInt8) : List Notice → RxState → Prop where
  | unfinished (h : Unfinished s) : Outcome s [] (if s = [] then .idle else .receiving)
  | holds {p : Nat} (h : HoldsReply s p) : Outcome s
    [⟨replyStatus (s.take (p + 1 + discoveryBodySize)), .receive, .discoveryReply, p + 1 + discoveryBodySize, none⟩]
    .complete
  | spoilt (h : SpoiltReply s) (size : Nat) : Outcome s [⟨.collision, .receive, .discoveryReply, size, none⟩] .failed

/-- A chunk either leaves the reception open or ends it, and then all later chunks are ignored. -/
private theorem Unbroken.receive_cases (h : Unbroken s b) (hfits : (s ++ c).length ≤ maxFrameSize) (now : Nat) :
    (Unfinished (s ++ c) ∧ notices (b.receive c now).1 = [] ∧ Unbroken (s ++ c) (b.receive c now).2 ∧
      (b.receive c now).2.rx = .receiving) ∨
    ((b.receive c now).2.Answered ∧
      ∀ more, Outcome (s ++ c ++ more) (notices (b.receive c now).1) (b.receive c now).2.rx) := by
  have hnext := h.advance hfits
  rw [h.gathered.receive hfits]
  rcases reply_cases (s ++ c) with hopen | ⟨p, hp⟩ | hspoilt
  · rw [hnext.conclude_of_unfinished hopen]
    exact .inl ⟨hopen, rfl, hnext, rfl⟩
  · obtain ⟨htold, hrx, hkind⟩ := hnext.conclude_of_holdsReply hp now
    refine .inr ⟨.inr ⟨hrx, hkind⟩, fun more => ?_⟩
    have hsize : p + 1 + discoveryBodySize ≤ (s ++ c).length := hp.size_le
    rw [htold, hrx, ← List.take_append_of_le_length hsize]
    exact .holds (hp.append more)
  · obtain ⟨htold, hrx⟩ := hnext.conclude_of_spoilt hspoilt now
    refine .inr ⟨.inl hrx, fun more => ?_⟩
    rw [htold, hrx]
    exact .spoilt (hspoilt.append more) _

private theorem Unbroken.receiveAll (h : Unbroken s b) (hs : Unfinished s)
    (hrx : b.rx = if s = [] then .idle else .receiving) (chunks : List (List UInt8 × Nat))
    (hne : ∀ chunk ∈ chunks, chunk.1 ≠ []) (hfits : (s ++ slotsOf chunks).length ≤ maxFrameSize) :
    Outcome (s ++ slotsOf chunks) (notices (b.receiveAll chunks).1) (b.receiveAll chunks).2.rx := by
  induction chunks generalizing s b with
  | nil =>
    rw [slotsOf, List.flatMap_nil, List.append_nil, Bus.receiveAll, hrx]
    exact .unfinished hs
  | cons chunk rest ih =>
    obtain ⟨c, now⟩ := chunk
    have hc : c ≠ [] := hne (c, now) List.mem_cons_self
    rw [slotsOf_cons, ← List.append_assoc] at hfits ⊢
    have hfirst : (s ++ c).length ≤ maxFrameSize := by
      rw [List.length_append] at hfits
      omega
    rw [Bus.receiveAll]
    dsimp only
    rw [notices_append]
    -- The first chunk that ends the reception decides, since the later ones are ignored.
    rcases h.receive_cases hfirst now with ⟨hopen, hquiet, hnext, hreceiving⟩ | ⟨hover, houtcome⟩
    · rw [hquiet, List.nil_append]
      refine ih hnext hopen ?_ (fun chunk hchunk => hne chunk (List.mem_cons_of_mem _ hchunk)) hfits
      rw [hreceiving, if_neg (by simp [hc])]
    · obtain ⟨hquiet, hlater⟩ := hover.receiveAll rest
      rw [hquiet, List.append_nil, hlater]
      exact houtcome (slotsOf rest)

/-- The bus has just begun to listen: for the answer to a request, or because a task wants to receive. -/
inductive Listening : Bus → Prop where
  | sent {b : Bus} (h : b.Reachable) (hsending : b.tx = .sending) (hall : b.txSize ≤ b.txCursor)
    (hreply : b.expectsReply = true) (now : Nat) : Listening (b.handle .txDone now).2
  | requested {b : Bus} (h : b.Reachable) (hidle : b.isSending = false) (hoff : b.receiving = false) (now : Nat) :
    Listening (b.handle .receiveRequested now).2

private theorem Listening.unbroken (h : b.Listening) : Unbroken [] b ∧ b.rx = .idle := by
  cases h with
  | @sent b h hsending hall hreply now =>
    rw [show b.handle .txDone now = b.onTxDone now from rfl, onTxDone_of_asked hsending hall hreply]
    exact ⟨⟨rfl, rfl, h.bounded.frame, rfl, rfl⟩, rfl⟩
  | @requested b h hidle hoff now =>
    have hlisten : (b.handle .receiveRequested now).2 = b.listen.2 := by
      unfold handle
      dsimp only
      rw [if_pos (by simp [hidle, hoff])]
    rw [hlisten]
    exact ⟨⟨rfl, rfl, h.bounded.frame, rfl, rfl⟩, rfl⟩

variable {told told' : List Notice} {rx rx' : RxState}

/-- The bus tells the three cases apart, so that the slots have one outcome only. -/
private theorem Outcome.of_holdsReply (h : Outcome s told rx) (hs : HoldsReply s p) :
    rx = .complete ∧ told = [⟨replyStatus (s.take (p + 1 + discoveryBodySize)), .receive, .discoveryReply,
      p + 1 + discoveryBodySize, none⟩] := by
  have hclass := classify_of_holdsReply hs 0
  cases h with
  | unfinished hs' => cases hclass.symm.trans (classify_of_unfinished hs' 0)
  | holds hs' =>
    injection hclass.symm.trans (classify_of_holdsReply hs' 0) with _ hsize
    rw [hsize]
    exact ⟨rfl, rfl⟩
  | spoilt hs' => cases hclass.symm.trans (classify_of_spoilt hs' 0)

private theorem Outcome.of_spoilt (h : Outcome s told rx) (hs : SpoiltReply s) :
    rx = .failed ∧ ∃ size, told = [⟨.collision, .receive, .discoveryReply, size, none⟩] := by
  have hclass := classify_of_spoilt hs 0
  cases h with
  | unfinished hs' => cases hclass.symm.trans (classify_of_unfinished hs' 0)
  | holds hs' => cases hclass.symm.trans (classify_of_holdsReply hs' 0)
  | spoilt _ size => exact ⟨rfl, size, rfl⟩

private theorem Outcome.of_unfinished (h : Outcome s told rx) (hs : Unfinished s) :
    rx = (if s = [] then .idle else .receiving) ∧ told = [] := by
  have hclass := classify_of_unfinished hs 0
  cases h with
  | unfinished => exact ⟨rfl, rfl⟩
  | holds hs' => cases hclass.symm.trans (classify_of_holdsReply hs' 0)
  | spoilt hs' => cases hclass.symm.trans (classify_of_spoilt hs' 0)

/-- Two receptions of the same slots differ at most in the size that is told of a collision. -/
private theorem Outcome.agree (h : Outcome s told rx) (h' : Outcome s told' rx') : told.length ≤ 1 ∧
    told'.map (fun n => (n.status, n.origin, n.kind)) = told.map (fun n => (n.status, n.origin, n.kind)) ∧
    rx' = rx := by
  rcases reply_cases s with hopen | ⟨p, hp⟩ | hspoilt
  · obtain ⟨rfl, rfl⟩ := h.of_unfinished hopen
    obtain ⟨rfl, rfl⟩ := h'.of_unfinished hopen
    exact ⟨Nat.zero_le 1, rfl, rfl⟩
  · obtain ⟨rfl, rfl⟩ := h.of_holdsReply hp
    obtain ⟨rfl, rfl⟩ := h'.of_holdsReply hp
    exact ⟨Nat.le_refl 1, rfl, rfl⟩
  · obtain ⟨rfl, size, rfl⟩ := h.of_spoilt hspoilt
    obtain ⟨rfl, size', rfl⟩ := h'.of_spoilt hspoilt
    exact ⟨Nat.le_refl 1, rfl, rfl⟩

private theorem replyStatus_cases (slots : List UInt8) :
    match Discovery.uidOfReply? slots with
    | .ok _ => replyStatus slots = .ok
    | .error .wrongChecksum => replyStatus slots = .wrongChecksum
    | .error _ => replyStatus slots = .collision := by
  unfold replyStatus
  cases Discovery.uidOfReply? slots with
  | ok uid => rfl
  | error e => cases e <;> rfl

/-- From a bus that listens, the slots of the chunks alone decide how often a reception is reported, with which status
and kind, and how it ends. -/
theorem answer_of_chunks (hb : b.Listening) (chunks chunks' : List (List UInt8 × Nat))
    (hsame : slotsOf chunks' = slotsOf chunks) (hfits : (slotsOf chunks).length ≤ maxFrameSize)
    (hne : ∀ chunk ∈ chunks, chunk.1 ≠ []) (hne' : ∀ chunk ∈ chunks', chunk.1 ≠ []) :
    let s := slotsOf chunks
    let told := notices (b.receiveAll chunks).1
    let told' := notices (b.receiveAll chunks').1
    let rx := (b.receiveAll chunks).2.rx
    (told.length ≤ 1 ∧ told'.map (fun n => (n.status, n.origin, n.kind)) =
      told.map (fun n => (n.status, n.origin, n.kind)) ∧
      (b.receiveAll chunks').2.rx = rx) ∧
    (∀ p, HoldsReply s p → rx = .complete ∧ ∃ status, told = [⟨status, .receive, .discoveryReply, p + 17, none⟩] ∧
      match Discovery.uidOfReply? (s.take (p + 17)) with
      | .ok _ => status = .ok
      | .error .wrongChecksum => status = .wrongChecksum
      | .error _ => status = .collision) ∧
    (SpoiltReply s → rx = .failed ∧ ∃ size, told = [⟨.collision, .receive, .discoveryReply, size, none⟩]) ∧
    (OpenReply s → rx = (if s = [] then .idle else .receiving) ∧ told = []) ∧
    ((∃ p, HoldsReply s p) ∨ SpoiltReply s ∨ OpenReply s) := by
  intro s told told' rx
  obtain ⟨hunbroken, hidle⟩ := hb.unbroken
  have hnil : Unfinished [] := .preamble (n := 0) (Nat.zero_le _)
  have houtcome : Outcome s told rx := hunbroken.receiveAll hnil hidle chunks hne hfits
  have houtcome' : Outcome s told' (b.receiveAll chunks').2.rx := by
    have := hunbroken.receiveAll hnil hidle chunks' hne' (by rw [hsame]; exact hfits)
    rwa [List.nil_append, hsame] at this
  refine ⟨houtcome.agree houtcome', fun p hp => ?_, houtcome.of_spoilt, fun hopen => ?_, ?_⟩
  · obtain ⟨hrx, htold⟩ := houtcome.of_holdsReply hp
    exact ⟨hrx, _, htold, replyStatus_cases _⟩
  · exact houtcome.of_unfinished hopen.unfinished
  · rcases reply_cases s with hopen | hholds | hspoilt
    · exact .inr (.inr hopen.openReply)
    · exact .inl hholds
    · exact .inr (.inl hspoilt)

/-- The answer of a device after three preamble bytes, read in one chunk and in two that meet inside its body. -/
theorem answer_of_two_chunks :
    let b := ((new .controller .standard).handle .receiveRequested 0).2
    let slots := Discovery.replyFrame ⟨0x05E0, 0x1234⟩ 3
    let chunks := [(slots, 40)]
    let chunks' := [(slots.take 5, 10), (slots.drop 5, 20)]
    notices (b.receiveAll chunks).1 = [⟨.ok, .receive, .discoveryReply, 20, none⟩] ∧
      (notices (b.receiveAll chunks').1).map (fun n => (n.status, n.origin, n.kind)) =
        [(.ok, .receive, .discoveryReply)] ∧
      (b.receiveAll chunks').2.rx = .complete := by
  intro b slots chunks chunks'
  have hlistening : b.Listening := .requested (.new .controller .standard) rfl rfl 0
  have hsame : slotsOf chunks' = slotsOf chunks := by decide +kernel
  have hholds : HoldsReply (slotsOf chunks) 3 :=
    ⟨by decide, Discovery.replyBody ⟨0x05E0, 0x1234⟩, by decide +kernel, by decide +kernel⟩
  have huid : Discovery.uidOfReply? ((slotsOf chunks).take 20) = .ok ⟨0x05E0, 0x1234⟩ := by
    show Discovery.uidOfReply? ((slotsOf [(Discovery.replyFrame ⟨0x05E0, 0x1234⟩ 3, 40)]).take 20) = _
    cbv
  obtain ⟨⟨-, htold', hrx'⟩, hreply, -⟩ := answer_of_chunks hlistening chunks chunks' hsame (by decide +kernel)
    (by decide +kernel) (by decide +kernel)
  obtain ⟨hrx, status, htold, hstatus⟩ := hreply 3 hholds
  rw [huid] at hstatus
  rw [htold, hstatus] at htold'
  exact ⟨by rw [htold, hstatus], htold', hrx'.trans hrx⟩

end Bus

end LightBus
