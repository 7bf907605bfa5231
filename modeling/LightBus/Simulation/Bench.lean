import LightBus.Hex
import LightBus.Simulation.Fault
import LightBus.Session

/-!
# A test bench

Hardware that does nothing on its own: the time stands still, interrupts come when they are told to, and every
call is written down and can be made to fail. While a task pauses, the bench goes on with its script.
-/

namespace LightBus.Simulation

/-- Something that happens to the hardware. -/
inductive BenchEvent where
  /-- Bytes have come in, and interrupts are raised. -/
  | interrupt (received : List UInt8) (raised : Interrupts)
  | alarm
  | edge (level : LineLevel)
  | nothing
  /-- The transmit fifo has this room from now on. -/
  | space (space : Nat)
  /-- Only these calls fail from now on. -/
  | fail (calls : List String)
deriving DecidableEq

/-- The state of the bench. -/
structure Bench where
  time : Nat
  space : Nat
  failing : List String
  rxFifo : List UInt8
  pending : Interrupts
  enabled : Interrupts
  /-- The latest call first. -/
  log : List String
  /-- What happens in the next pauses, each event after so many microseconds. -/
  script : List (Nat × BenchEvent)
  pauseMicros : Nat
  pauses : Nat

namespace Bench

def new (space : Nat) (failing : List String) : Bench :=
  ⟨0, space, failing, [], .none, .none, [], [], 0, 0⟩

/-! ### Calls -/

/-- Writes a call down, with a mark if it fails. -/
def note (name details : String) (b : Bench) : Except Fault Unit × Bench :=
  let text := name ++ details
  if name ∈ b.failing then (.error ⟨name⟩, { b with log := ("!" ++ text) :: b.log })
  else (.ok (), { b with log := text :: b.log })

theorem note_frame (name details : String) (b : Bench) : ∃ log, (note name details b).2 = { b with log } := by
  unfold note
  dsimp only
  split
  · exact ⟨_, rfl⟩
  · exact ⟨_, rfl⟩

def call (name : String) (details : String := "") : Run Bench Fault Unit := note name details

/-- A call with a set of interrupts, which cannot fail. -/
def mask (name : String) (set : Interrupts) (b : Bench) : Bench :=
  { b with log := s!"{name} {set.bits.toNat}" :: b.log }

private def hexDetails (bytes : List UInt8) : String := if bytes.isEmpty then "" else " " ++ Hex.ofBytes bytes

def readFifo (room : Nat) : Run Bench Fault (List UInt8) := fun b =>
  if "read" ∈ b.failing then (.error ⟨"read"⟩, b)
  else (.ok (b.rxFifo.take room), { b with rxFifo := b.rxFifo.drop room })

def discardFifo (b : Bench) : Nat × Bench :=
  if "read" ∈ b.failing then (0, b) else (b.rxFifo.length, { b with rxFifo := [] })

/-- The calls that a port makes. -/
def hardware : Hardware Bench Fault where
  attachUart := call "uart_attach"
  detachUart := call "uart_detach"
  setBaud := fun baud => call "baud" s!" {baud.toNat}"
  readFifo := readFifo
  discardFifo := discardFifo
  space := Bench.space
  writeFifo := fun bytes => call "write" (hexDetails bytes)
  resetRxFifo := fun b => note "reset_rx" "" { b with rxFifo := [] }
  resetTxFifo := call "reset_tx"
  interrupts := fun b => b.pending.inter b.enabled
  enable := fun set b => mask "enable" set { b with enabled := b.enabled.union set }
  disable := fun set b => mask "disable" set { b with enabled := b.enabled.without set }
  clear := fun set b => mask "clear" set { b with pending := b.pending.without set }
  turn := fun direction => call "rts" s!" {direction == .transmit}"
  invert := fun inverted => call "invert" s!" {inverted}"
  attachTimer := call "timer_attach"
  detachTimer := call "timer_detach"
  clock := Bench.time
  setAlarm := fun micros => call "alarm" s!" {micros.toNat}"
  cancelAlarm := call "stop"

/-! ### Events -/

def onBench (f : Bench → Bench) (p : Port Bench) : Port Bench := { p with hardware := f p.hardware }

/-- So much time goes by. -/
def wait (micros : Nat) : Port Bench → Port Bench := onBench fun b => { b with time := b.time + micros }

/-- Something happens to the hardware. -/
def occur (event : BenchEvent) (p : Port Bench) : Port Bench :=
  match event with
  | .interrupt received raised =>
    (onBench (fun b => { b with rxFifo := b.rxFifo ++ received, pending := b.pending.union raised }) p).onUart
      hardware
  | .alarm => p.onAlarm hardware
  | .edge level => p.onEdge hardware level
  | .nothing => p
  | .space space => onBench (fun b => { b with space }) p
  | .fail calls => onBench (fun b => { b with failing := calls }) p

/-- Time goes by, and the next event of the script happens. -/
def pause (p : Port Bench) : Port Bench :=
  let p := wait p.hardware.pauseMicros (onBench (fun b => { b with pauses := b.pauses + 1 }) p)
  match p.hardware.script with
  | [] => p
  | (micros, event) :: rest => occur event (wait micros (onBench (fun b => { b with script := rest }) p))

/-- A task on the bench has the port for itself but for its pauses. -/
def world : World Bench Fault := ⟨hardware, pause, id⟩

/-- How often a task pauses that waits for a lock, if the lock is given back in its pause number `count`. -/
def lockPauses (count : Nat) (p : Port Bench) : Nat × Port Bench :=
  let start := p.hardware.pauses
  let giveBack (p : Port Bench) : Port Bench :=
    let p := onBench (fun b => { b with pauses := b.pauses + 1 }) p
    if p.hardware.pauses - start = count then p.unlock else p
  let waiting : World Bench Fault := ⟨hardware, giveBack, id⟩
  let (_, p) := (Session.lock waiting (count + 1)).runFrom p.tryLock.2
  (p.hardware.pauses - start, p.unlock)

end Bench

end LightBus.Simulation
