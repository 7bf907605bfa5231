import LightBus.Proofs.Bus.Listening
import LightBus.Proofs.Bus.Ranges

/-!
# Indices that are never out of range

The bus looks at its frame buffer by indices and parts, and subtracts sizes, without asking whether this is possible.
Here each event is handled once more, by the same steps, but none of them gives a result if an index, a part or a
difference is out of range.

* `Checked.part?`, `Checked.difference?`: what is asked of a part and of a difference; an index is looked up where it
  may be missing.
* `Checked.handle`: an event, with all its accesses to the buffer.
* `Checked.handle_eq`: nothing is out of range, and the results are those of `Bus.handle`.
* `Bus.in_range`: all that the numbers of a bus are relied on for, in every state that can be reached.
-/

namespace LightBus

namespace Checked

/-! ### Accesses -/

/-- The part from `first` to before `last`, if there is one. -/
def part? (slots : List UInt8) (first last : Nat) : Option (List UInt8) :=
  if first ≤ last ∧ last ≤ slots.length then some (slice slots first (last - first)) else none

/-- The difference, if it is not negative. -/
def difference? (minuend subtrahend : Nat) : Option Nat :=
  if subtrahend ≤ minuend then some (minuend - subtrahend) else none

variable {slots frame : List UInt8} {first last size : Nat}

private theorem part?_eq_some (hlast : first + size ≤ slots.length) :
    part? slots first (first + size) = some (slice slots first size) := by
  rw [part?, if_pos ⟨Nat.le_add_right _ _, hlast⟩, Nat.add_sub_cancel_left]

/-- The first slots are a part if there are so many. -/
theorem part?_zero (hlast : last ≤ slots.length) : part? slots 0 last = some (slots.take last) :=
  if_pos ⟨Nat.zero_le last, hlast⟩

/-- The last slots are a part if it does not begin after them. -/
private theorem part?_length (hfirst : first ≤ slots.length) :
    part? slots first slots.length = some (slots.drop first) := by
  rw [part?, if_pos ⟨hfirst, Nat.le_refl _⟩, slice, List.take_of_length_le (Nat.le_of_eq List.length_drop)]

theorem slice_succ (hfirst : first < slots.length) (size : Nat) :
    slice slots first (size + 1) = slots.getD first 0 :: slice slots (first + 1) size := by
  rw [slice, List.drop_eq_getElem_cons hfirst, List.take_succ_cons, List.getD_eq_getElem?_getD,
    List.getElem?_eq_getElem hfirst]
  rfl

private theorem difference?_eq_some {minuend subtrahend : Nat} (hle : subtrahend ≤ minuend) :
    difference? minuend subtrahend = some (minuend - subtrahend) :=
  if_pos hle

/-- An index is looked up where the slots are. -/
private theorem getElem?_eq_getD {i : Nat} (hi : i < slots.length) : slots[i]? = some (slots.getD i 0) := by
  rw [List.getD_eq_getElem?_getD, List.getElem?_eq_getElem hi]
  rfl

/-! ### Looking at a frame -/

/-- The separator is looked for behind seven preamble bytes at most. -/
def separatorIndex (frame : List UInt8) : Option (Option Nat) :=
  let head := frame.take (maxPreambleLength + 1)
  let index := (head.takeWhile (· == preambleByte)).length
  if index < head.length then do
    let slot ← frame[index]?
    some (if slot = separatorByte then some index else none)
  else some none

def classifyReply (slots : List UInt8) : Option Classification :=
  if slots.head? ≠ some preambleByte ∧ slots.head? ≠ some separatorByte then some (.malformed .discoveryReply)
  else do
    match ← separatorIndex slots with
    | some index =>
      some (if index + 1 + discoveryBodySize ≤ slots.length then
        .complete .discoveryReply (index + 1 + discoveryBodySize)
      else .incomplete)
    | none =>
      some (if slots.all (· == preambleByte) && decide (slots.length ≤ maxPreambleLength) then .incomplete
      else .malformed .discoveryReply)

def classify (slots : List UInt8) (afterBreak : Bool) (sizeGuess : Nat) : Option Classification :=
  match slots with
  | [] => some .incomplete
  | startCode :: _ =>
    if !afterBreak then classifyReply slots
    else if startCode = rdmStart then
      if slots.length < 3 then some .incomplete
      else do
        let length ← slots[2]?
        some (if packageSize length ≤ slots.length then .complete .package (packageSize length) else .incomplete)
    else some (if sizeGuess ≤ slots.length then .complete (.levels startCode) sizeGuess else .incomplete)

def checksumValid (frame : List UInt8) : Option Bool :=
  if frame.length < 2 then some false
  else do
    let size ← difference? frame.length 2
    let content ← part? frame 0 size
    let trailer ← part? frame size frame.length
    let high ← trailer[0]?
    let low ← trailer[1]?
    some ([high, low] == word (checksum content))

def packageStatus (slots : List UInt8) : Option Status := do
  let valid ← checksumValid slots
  some (if valid then .ok else .wrongChecksum)

def isRequest (frame : List UInt8) : Option Bool :=
  if frame.length < minPackageSize then some false
  else do
    let startCode ← frame[0]?
    if startCode ≠ rdmStart then some false
    else do
      let code ← frame[20]?
      some (CommandClass.ofRequestCode? code).isSome

def isBranchProbe (frame : List UInt8) : Option Bool := do
  if ← isRequest frame then
    let high ← frame[21]?
    let low ← frame[22]?
    let code ← frame[20]?
    some (code == CommandClass.discovery.requestCode && wordOf high low == ParameterId.discUniqueBranch)
  else some false

/-- An address has six bytes. -/
def destination (frame : List UInt8) : Option Address := do
  match ← part? frame 3 9 with
  | [b0, b1, b2, b3, b4, b5] => some (.ofBytes b0 b1 b2 b3 b4 b5)
  | _ => none

def expectsResponse (frame : List UInt8) : Option Bool := do
  if ← isRequest frame then
    let address ← destination frame
    if address.isBroadcast then isBranchProbe frame else some true
  else some false

/-- The coded identifier and its checksum are parts; what they tell is decided without further accesses. -/
def uidOfReply (frame : List UInt8) : Option (Except FrameError Uid) := do
  match ← separatorIndex frame with
  | none => some (.error .wrongStart)
  | some index =>
    let length ← difference? frame.length (index + 1)
    if length < discoveryBodySize then some (.error (.wrongLength length))
    else
      let _ ← part? frame (index + 1) (index + 1 + 12)
      let _ ← part? frame (index + 1 + 12) (index + 1 + discoveryBodySize)
      some (Discovery.uidOfReply? frame)

def replyStatus (slots : List UInt8) : Option Status := do
  match ← uidOfReply slots with
  | .ok _ => some .ok
  | .error .wrongChecksum => some .wrongChecksum
  | .error _ => some .collision

/-! ### Events -/

def kindByStart (b : Bus) : Option FrameKind := do
  let startCode ← b.frame[0]?
  some (if startCode = rdmStart then .package else .levels startCode)

def isOwnRequest (b : Bus) (size : Nat) : Option Bool :=
  match b.mode with
  | .controller => some false
  | .responder uid => do
    let frame ← part? b.frame 0 size
    if ← expectsResponse frame then
      let address ← destination frame
      some (address.addresses uid)
    else some false

/-- After a package that the task has to read or to answer in time the bus turns around. -/
def turnsAround (b : Bus) (status : Status) (size : Nat) : Option Bool :=
  if b.mode = .controller then some true else if status = .ok then isOwnRequest b size else some false

def finishPackage (b : Bus) (size now : Nat) : Option (List Effect × Bus) := do
  let slots ← part? b.frame 0 size
  let status ← packageStatus slots
  let (finished, b) := b.finish status .package size now
  let turns ← turnsAround b status size
  some (if turns then (finished ++ b.turnAround.1, b.turnAround.2) else (finished, b))

def finishReply (b : Bus) (size now : Nat) : Option (List Effect × Bus) := do
  let slots ← part? b.frame 0 size
  let status ← replyStatus slots
  let (finished, b) := b.finish status .discoveryReply size now
  some (if b.mode = .controller then (finished ++ b.turnAround.1, b.turnAround.2) else (finished, b))

def conclude (b : Bus) (overflow : Bool) (now : Nat) : Option (List Effect × Bus) := do
  let slots ← part? b.frame 0 b.cursor
  match ← classify slots b.afterBreak b.sizeGuess with
  | .incomplete =>
    if b.cursor = maxFrameSize then
      let kind ← kindByStart b
      some (if overflow then b.fail .tooLarge kind now else b.finish .ok kind b.cursor now)
    else some ([], b)
  | .malformed kind => some (b.fail .collision kind now)
  | .complete .package size => finishPackage b size now
  | .complete .discoveryReply size => finishReply b size now
  | .complete kind size => some (if overflow then b.fail .tooLarge kind now else b.finish .ok kind size now)

def advance (b : Bus) (count : Nat) : Option Bus := do
  let room ← difference? maxFrameSize b.cursor
  some { b with cursor := b.cursor + min count room }

def onReceived (b : Bus) (count now : Nat) : Option (List Effect × Bus) := do
  let room ← difference? maxFrameSize b.cursor
  let counted ← advance b count
  match b.rx with
  | .complete =>
    match b.rxKind with
    | .levels _ => some (if room < count then counted.fail .tooLarge b.rxKind now else ([], counted))
    | _ => some ([], b)
  | .failed => some ([], b)
  | _ => conclude { counted with rx := .receiving } (room < count) now

/-- What a frame is that was not received to its end. -/
def brokenKind (b : Bus) : Option FrameKind :=
  if b.cursor = 0 then some .empty else if b.afterBreak then kindByStart b else some .discoveryReply

def onLineFault (b : Bus) (fault : LineFault) (count now : Nat) : Option (List Effect × Bus) :=
  if b.frameFinished then some ([.resetRxFifo], b)
  else do
    let b ← advance b count
    let status : Status :=
      match fault with
      | .framing => .framing
      | .overflow => .overflow
    let kind ← brokenKind b
    let (effects, b) := b.fail status kind now
    some (effects ++ [.resetRxFifo], b)

/-- Whatever is sent, its start code is read. -/
def startTransmit (b : Bus) (length : Nat) (expectsReply withBreak : Bool) (space : Nat) :
    Option (List Effect × Bus) :=
  if b.isSending ∨ length = 0 then some ([], b)
  else do
    let _ ← kindByStart b
    some (b.startTransmit length expectsReply withBreak space)

/-- The start code tells what has ended with the break. -/
def onBreak (b : Bus) : Option (List Effect × Bus) :=
  if 0 < b.cursor ∧ b.afterBreak then do
    let _ ← kindByStart b
    some b.onBreak
  else some b.onBreak

/-- An event, with all its accesses to the buffer. -/
def handle (b : Bus) (event : BusEvent) (now : Nat) : Option (List Effect × Bus) :=
  match event with
  | .startTransmit length expectsReply withBreak space => startTransmit b length expectsReply withBreak space
  | .break => onBreak b
  | .received count => onReceived b count now
  | .lineFault fault count => onLineFault b fault count now
  | .alarm _ | .txReady _ | .txDone | .lineRising | .collision | .receiveRequested => some (b.handle event now)

/-! ### Nothing is out of range -/

private theorem separatorIndex_eq (frame : List UInt8) :
    separatorIndex frame = some (Discovery.separatorIndex? frame) := by
  unfold separatorIndex Discovery.separatorIndex?
  dsimp only
  have hprefix := (List.takeWhile_sublist (· == preambleByte) (l := frame.take (maxPreambleLength + 1))).length_le
  have hhead : (frame.take (maxPreambleLength + 1)).length = min (maxPreambleLength + 1) frame.length :=
    List.length_take
  generalize ((frame.take (maxPreambleLength + 1)).takeWhile (· == preambleByte)).length = index at *
  by_cases hother : index < (frame.take (maxPreambleLength + 1)).length
  · have hindex : frame[index]? = some frame[index] := List.getElem?_eq_getElem (by omega)
    rw [if_pos hother, hindex]
    have hle : index ≤ maxPreambleLength := by omega
    simp only [Option.bind_eq_bind, Option.bind_some, hle, true_and, Option.some.injEq]
  · -- either all slots are preamble bytes, or too many of them
    rw [if_neg hother, if_neg]
    rintro ⟨hle, hslot⟩
    have hindex := (List.getElem?_eq_some_iff.1 hslot).1
    omega

private theorem classifyReply_eq (slots : List UInt8) :
    classifyReply slots = some (LightBus.classifyReply slots) := by
  unfold classifyReply LightBus.classifyReply
  rw [separatorIndex_eq]
  split
  · rfl
  · cases Discovery.separatorIndex? slots <;> rfl

private theorem classify_eq (slots : List UInt8) (afterBreak : Bool) (sizeGuess : Nat) :
    classify slots afterBreak sizeGuess = some (LightBus.classify slots afterBreak sizeGuess) := by
  cases slots with
  | nil => rfl
  | cons startCode rest =>
    rw [classify, LightBus.classify]
    split
    · exact classifyReply_eq _
    split
    · split
      · rename_i hshort
        rw [List.getElem?_eq_none (by omega)]
      · rename_i hlong
        rw [List.getElem?_eq_getElem (by omega)]
        rfl
    · rfl

private theorem checksumValid_eq (frame : List UInt8) :
    checksumValid frame = some (LightBus.checksumValid frame) := by
  unfold checksumValid LightBus.checksumValid
  split
  · rename_i hshort
    rw [decide_eq_false (by omega), Bool.false_and]
  · rename_i hlong
    have htrailer : (frame.drop (frame.length - 2)).length = 2 := by
      rw [List.length_drop]
      omega
    rw [difference?_eq_some (by omega), decide_eq_true (by omega)]
    simp only [Option.bind_eq_bind, Option.bind_some, Bool.true_and]
    rw [part?_zero (Nat.sub_le _ _), part?_length (Nat.sub_le _ _)]
    match frame.drop (frame.length - 2), htrailer with
    | [high, low], _ => rfl

private theorem packageStatus_eq (slots : List UInt8) : packageStatus slots = some (Bus.packageStatus slots) := by
  unfold packageStatus Bus.packageStatus
  rw [checksumValid_eq]
  rfl

private theorem isRequest_eq (frame : List UInt8) : isRequest frame = some (Frame.isRequest frame) := by
  unfold isRequest Frame.isRequest Frame.isPackage
  split
  · rename_i hshort
    rw [decide_eq_false (by omega), Bool.false_and, Bool.false_and]
  · rename_i hlong
    have hslots : 20 < frame.length := by
      rw [minPackageSize] at hlong
      omega
    rw [decide_eq_true (by omega), List.head?_eq_getElem?, List.getElem?_eq_getElem (by omega),
      getElem?_eq_getD hslots]
    simp only [Option.bind_eq_bind, Option.bind_some, Bool.true_and]
    split
    · rename_i hstart
      rw [beq_eq_false_iff_ne.2 (by simpa using hstart), Bool.false_and]
    · rename_i hstart
      rw [Decidable.not_not.1 hstart]
      rfl

theorem length_of_isRequest (h : Frame.isRequest frame = true) : minPackageSize ≤ frame.length := by
  unfold Frame.isRequest Frame.isPackage at h
  simp only [Bool.and_eq_true, decide_eq_true_eq] at h
  exact h.1.1

private theorem isBranchProbe_eq (frame : List UInt8) : isBranchProbe frame = some (Frame.isBranchProbe frame) := by
  unfold isBranchProbe Frame.isBranchProbe
  rw [isRequest_eq]
  cases hrequest : Frame.isRequest frame with
  | false => rfl
  | true =>
    have hlong := length_of_isRequest hrequest
    rw [minPackageSize] at hlong
    rw [getElem?_eq_getD (by omega : 20 < frame.length), getElem?_eq_getD (by omega : 21 < frame.length),
      getElem?_eq_getD (by omega : 22 < frame.length)]
    rfl

private theorem destination_eq (h : minPackageSize ≤ frame.length) :
    destination frame = some (Frame.destination frame) := by
  rw [minPackageSize] at h
  have hbytes : slice frame 3 6 =
      [frame.getD 3 0, frame.getD 4 0, frame.getD 5 0, frame.getD 6 0, frame.getD 7 0, frame.getD 8 0] := by
    rw [slice_succ (by omega), slice_succ (by omega), slice_succ (by omega), slice_succ (by omega),
      slice_succ (by omega), slice_succ (by omega), slice, List.take_zero]
  unfold destination
  rw [part?_eq_some (by omega : 3 + 6 ≤ frame.length), hbytes]
  simp only [Option.bind_eq_bind, Option.bind_some]
  rw [Frame.destination, Frame.address]

private theorem expectsResponse_eq (frame : List UInt8) :
    expectsResponse frame = some (Frame.expectsResponse frame) := by
  unfold expectsResponse Frame.expectsResponse
  rw [isRequest_eq]
  cases hrequest : Frame.isRequest frame with
  | false => rfl
  | true =>
    simp only [↓reduceIte, Option.bind_eq_bind, Option.bind_some, Bool.true_and]
    rw [destination_eq (length_of_isRequest hrequest), Option.bind_some, isBranchProbe_eq]
    cases (Frame.destination frame).isBroadcast with
    | false => rfl
    | true => rfl

private theorem lt_of_separatorIndex? {index : Nat} (h : Discovery.separatorIndex? frame = some index) :
    index < frame.length := by
  obtain ⟨⟨-, hslot⟩, hindex⟩ := Option.ite_none_right_eq_some.1 h
  rw [Option.some.inj hindex] at hslot
  exact (List.getElem?_eq_some_iff.1 hslot).1

private theorem uidOfReply_eq (frame : List UInt8) : uidOfReply frame = some (Discovery.uidOfReply? frame) := by
  unfold uidOfReply
  rw [separatorIndex_eq]
  cases hindex : Discovery.separatorIndex? frame with
  | none =>
    rw [Discovery.uidOfReply?, hindex]
    rfl
  | some index =>
    have hinside := lt_of_separatorIndex? hindex
    simp only [Option.bind_eq_bind, Option.bind_some]
    rw [difference?_eq_some hinside, Option.bind_some]
    split
    · rename_i hshort
      rw [Discovery.uidOfReply?, hindex]
      dsimp only
      rw [List.length_drop, if_pos hshort]
    · rename_i hlong
      rw [discoveryBodySize] at hlong
      rw [part?_eq_some (by omega), Option.bind_some, discoveryBodySize,
        part?_eq_some (by omega : index + 1 + 12 + 4 ≤ _), Option.bind_some]

private theorem replyStatus_eq (slots : List UInt8) : replyStatus slots = some (Bus.replyStatus slots) := by
  unfold replyStatus Bus.replyStatus
  rw [uidOfReply_eq]
  cases Discovery.uidOfReply? slots with
  | ok uid => rfl
  | error e => cases e <;> rfl

/-! ### Events that find their slots -/

variable {b : Bus} {now : Nat}

private theorem kindByStart_eq (hb : b.Bounded) : kindByStart b = some b.kindByStart := by
  unfold kindByStart Bus.kindByStart
  match b.frame, hb.frame with
  | startCode :: _, _ => rfl

private theorem isOwnRequest_eq (hsize : size ≤ b.frame.length) :
    isOwnRequest b size = some (b.isOwnRequest size) := by
  unfold isOwnRequest Bus.isOwnRequest
  cases b.mode with
  | controller => rfl
  | responder uid =>
    dsimp only
    rw [part?_zero hsize]
    simp only [Option.bind_eq_bind, Option.bind_some]
    rw [expectsResponse_eq, Option.bind_some]
    cases hexpects : Frame.expectsResponse (b.frame.take size) with
    | false => rfl
    | true =>
      have hrequest : Frame.isRequest (b.frame.take size) = true := by
        unfold Frame.expectsResponse at hexpects
        exact (Bool.and_eq_true_iff.1 hexpects).1
      rw [if_pos rfl, destination_eq (length_of_isRequest hrequest), Option.bind_some, Bool.true_and]

private theorem turnsAround_eq (hsize : size ≤ b.frame.length) (status : Status) :
    turnsAround b status size = some (decide (b.mode = .controller ∨ (status = .ok ∧ b.isOwnRequest size))) := by
  unfold turnsAround
  rw [isOwnRequest_eq hsize]
  by_cases hmode : b.mode = .controller
  · rw [if_pos hmode, decide_eq_true (.inl hmode)]
  · rw [if_neg hmode]
    by_cases hstatus : status = .ok
    · simp only [hmode, hstatus, ↓reduceIte, true_and, false_or, Bool.decide_eq_true]
    · simp only [hmode, hstatus, ↓reduceIte, false_and, false_or, decide_false]

private theorem finishPackage_eq (hsize : size ≤ b.frame.length) (now : Nat) :
    finishPackage b size now = some (b.finishPackage size now) := by
  have hturns (status : Status) := turnsAround_eq (b := (b.finish status .package size now).2) hsize status
  unfold finishPackage Bus.finishPackage
  rw [part?_zero hsize]
  simp only [Option.bind_eq_bind, Option.bind_some]
  rw [packageStatus_eq, Option.bind_some, hturns, Option.bind_some]
  simp only [decide_eq_true_eq]

private theorem finishReply_eq (hsize : size ≤ b.frame.length) (now : Nat) :
    finishReply b size now = some (b.finishReply size now) := by
  unfold finishReply Bus.finishReply
  rw [part?_zero hsize]
  simp only [Option.bind_eq_bind, Option.bind_some]
  rw [replyStatus_eq, Option.bind_some]

private theorem conclude_eq (hb : b.Bounded) (overflow : Bool) (now : Nat) :
    conclude b overflow now = some (b.conclude overflow now) := by
  have hcursor : b.cursor ≤ b.frame.length := Nat.le_trans hb.cursor (Nat.le_of_eq hb.frame.symm)
  have hslots : (b.frame.take b.cursor).length ≤ b.frame.length := by
    rw [List.length_take]
    exact Nat.min_le_right _ _
  unfold conclude Bus.conclude
  rw [part?_zero hcursor]
  simp only [Option.bind_eq_bind, Option.bind_some]
  rw [classify_eq, Option.bind_some]
  cases hclassify : LightBus.classify (b.frame.take b.cursor) b.afterBreak b.sizeGuess with
  | incomplete =>
    dsimp only
    rw [kindByStart_eq hb, Option.bind_some]
    split <;> rfl
  | malformed kind => rfl
  | complete kind size =>
    have hsize := Nat.le_trans (classify_size_le hclassify) hslots
    cases kind with
    | package => exact finishPackage_eq hsize now
    | discoveryReply => exact finishReply_eq hsize now
    | empty | levels => rfl

private theorem room_eq (hb : b.Bounded) : difference? maxFrameSize b.cursor = some b.window := by
  rw [difference?_eq_some hb.cursor, Bus.window, hb.frame]

private theorem advance_eq (hb : b.Bounded) (count : Nat) : advance b count = some (b.advance count) := by
  unfold advance
  rw [room_eq hb]
  rfl

private theorem onReceived_eq (hb : b.Bounded) (count now : Nat) :
    onReceived b count now = some (b.onReceived count now) := by
  have hcounted : { b.advance count with rx := .receiving }.Bounded := (hb.advance count).keep rfl (.inl rfl) rfl
  have hconclude := conclude_eq hcounted (b.window < count) now
  unfold onReceived Bus.onReceived
  rw [room_eq hb, advance_eq hb]
  simp only [Option.bind_eq_bind, Option.bind_some, decide_eq_true_eq]
  cases b.rx with
  | complete => cases b.rxKind <;> rfl
  | failed => rfl
  | idle | inBreak | inMark | receiving => exact hconclude

private theorem brokenKind_eq (hb : b.Bounded) : brokenKind b =
    some (if b.cursor = 0 then .empty else if b.afterBreak then b.kindByStart else .discoveryReply) := by
  unfold brokenKind
  rw [kindByStart_eq hb]
  split
  · rfl
  · split <;> rfl

private theorem onLineFault_eq (hb : b.Bounded) (fault : LineFault) (count now : Nat) :
    onLineFault b fault count now = some (b.onLineFault fault count now) := by
  unfold onLineFault Bus.onLineFault
  rw [advance_eq hb]
  simp only [Option.bind_eq_bind, Option.bind_some]
  rw [brokenKind_eq (hb.advance count), Option.bind_some]
  split <;> rfl

private theorem startTransmit_eq (hb : b.Bounded) (length : Nat) (expectsReply withBreak : Bool) (space : Nat) :
    startTransmit b length expectsReply withBreak space =
      some (b.startTransmit length expectsReply withBreak space) := by
  unfold startTransmit
  split
  · rename_i hidle
    rw [Bus.startTransmit, if_pos hidle]
  · rw [kindByStart_eq hb]
    rfl

private theorem onBreak_eq (hb : b.Bounded) : onBreak b = some b.onBreak := by
  unfold onBreak
  rw [kindByStart_eq hb]
  split <;> rfl

/-- No access of an event is out of range, so the results are the same. -/
theorem handle_eq (hb : b.Bounded) (event : BusEvent) (now : Nat) :
    handle b event now = some (b.handle event now) := by
  cases event with
  | startTransmit length expectsReply withBreak space => exact startTransmit_eq hb length expectsReply withBreak space
  | «break» => exact onBreak_eq hb
  | received count => exact onReceived_eq hb count now
  | lineFault fault count => exact onLineFault_eq hb fault count now
  | alarm | txReady | txDone | lineRising | collision | receiveRequested => rfl

end Checked

namespace Bus

/-! ### All numbers -/

/-- An effect is added to the others, unless there are too many of them already. -/
def push (effects : List Effect) (effect : Effect) : List Effect :=
  if effects.length < maxEffects then effects ++ [effect] else effects

private theorem foldl_push (effects added : List Effect) (h : added.length + effects.length ≤ maxEffects) :
    effects.foldl push added = added ++ effects := by
  induction effects generalizing added with
  | nil => rw [List.foldl_nil, List.append_nil]
  | cons effect rest ih =>
    rw [List.length_cons] at h
    rw [List.foldl_cons, push, if_pos (by omega), ih _ (by rw [List.length_append, List.length_singleton]; omega),
      List.append_assoc, List.singleton_append]

/-- The steps that cause effects. -/
inductive Transition (b : Bus) : List Effect × Bus → Prop where
  | handle (event : BusEvent) (now : Nat) : Transition b (b.handle event now)
  | start : Transition b b.start
  | stop : Transition b b.stop

variable {b : Bus} {result : List Effect × Bus}

private theorem Transition.reachable (h : Transition b result) (hb : b.Reachable) : result.2.Reachable := by
  cases h with
  | handle event now => exact hb.handle event now
  | start => exact hb.start
  | stop => exact hb.stop

private theorem Transition.fits (h : Transition b result) (hb : b.Sound) : FitsWithin maxEffects result := by
  cases h with
  | handle event now => exact hb.fits_handle event now
  | start => exact fitsWithin_plain rfl (by decide)
  | stop => exact fitsWithin_plain rfl (by decide)

/-- In every state that can be reached the numbers are in range, and so are all accesses to the buffer: those of the
next event, whatever slots it counts, those that the receiver and the transmitter make with the numbers they are told,
and those of the task that reads what a notice is about.  A response is awaited only after everything was sent and
before a frame has come; and no step has more effects than fit, so that none is lost. -/
theorem in_range (h : b.Reachable) :
    (b.cursor ≤ maxFrameSize ∧ 1 ≤ b.sizeGuess ∧ b.sizeGuess ≤ maxFrameSize ∧ b.txCursor ≤ b.txSize ∧
      b.txSize ≤ maxFrameSize) ∧
    (b.awaiting = true → b.tx = .done ∧ b.rx ≠ .complete ∧ b.rx ≠ .failed) ∧
    (b.rx = .idle → b.cursor = 0) ∧
    Checked.part? b.frame b.cursor b.frame.length = some (b.frame.drop b.cursor) ∧
    (∀ event now, Checked.handle b event now = some (b.handle event now)) ∧
    ∀ result, Transition b result →
      result.1.length ≤ maxEffects ∧ result.1.foldl push [] = result.1 ∧
      (∀ n, .notify n ∈ result.1 → n.size ≤ maxFrameSize ∧ (n.origin = .receive → n.size ≤ result.2.cursor) ∧
        Checked.part? result.2.frame 0 n.size = some (result.2.frame.take n.size)) ∧
      ∀ first last, .writeFifo first last ∈ result.1 →
        Checked.part? result.2.frame first last = some (slice result.2.frame first (last - first)) := by
  have hsound := h.sound
  refine ⟨⟨hsound.cursor, hsound.guess_pos, hsound.guess_le, hsound.sent_le, hsound.size_le⟩, fun hawaiting => ?_,
    fun hidle => (h.fresh hidle).1, Checked.part?_length
      (Nat.le_trans hsound.cursor (Nat.le_of_eq hsound.frame.symm)),
    Checked.handle_eq hsound.toBounded, fun result hresult => ?_⟩
  · obtain ⟨hdone, hopen⟩ := hsound.waits hawaiting
    unfold frameFinished at hopen
    refine ⟨hdone, fun hrx => ?_, fun hrx => ?_⟩
    · rw [hrx] at hopen
      cases hopen
    · rw [hrx] at hopen
      cases hopen
  · have hfits := hresult.fits hsound
    have hframe := (hresult.reachable h).bounded.frame
    refine ⟨hfits.count, foldl_push _ [] (by rw [List.length_nil, Nat.zero_add]; exact hfits.count), fun n hn => ?_,
      fun first last hwrite => ?_⟩
    · obtain ⟨hsize, hcursor⟩ := hfits.fits _ hn
      exact ⟨hsize, hcursor, Checked.part?_zero (by omega)⟩
    · obtain ⟨hless, hlast⟩ := hfits.fits _ hwrite
      exact if_pos ⟨Nat.le_of_lt hless, by omega⟩

/-- After a break many more slots are counted than the buffer has room for. -/
theorem in_range_flood :
    let b := ((new .controller .standard).handle .break 0).2
    let flooded := b.handle (.received 1000) 10
    Checked.handle b (.received 1000) 10 = some flooded ∧ flooded.1.foldl push [] = flooded.1 ∧
      ∀ n, .notify n ∈ flooded.1 → n.size ≤ maxFrameSize ∧ (n.origin = .receive → n.size ≤ flooded.2.cursor) := by
  intro b flooded
  obtain ⟨-, -, -, -, hchecked, hsteps⟩ := in_range ((Reachable.new .controller .standard).handle .break 0)
  obtain ⟨-, hkept, hnotices, -⟩ := hsteps flooded (.handle (.received 1000) 10)
  exact ⟨hchecked _ _, hkept, fun n hn => ⟨(hnotices n hn).1, (hnotices n hn).2.1⟩⟩

end Bus

end LightBus
