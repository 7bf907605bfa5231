import LightBus.Controller

/-!
# Searching for devices

A controller finds all devices on the bus by halving the address space. A branch without an answer is dropped; a
branch with answers is split, until it holds a single value. A device that was found is muted, so that it does
not answer again.
-/

namespace LightBus

/-- How a search goes about it. -/
structure SearchConfig where
  /-- Mute the device that was alone in its answer, and probe the branch again before it is split. -/
  quickFind : Bool
  /-- Try the identifier with its bytes reversed when a device does not answer. -/
  swapFallback : Bool
  /-- How often a request without an answer is sent; once at least. -/
  attempts : UInt8
deriving DecidableEq

/-- A search under way: the controller, and the devices found so far in their order. -/
structure Search (σ : Type) where
  controller : Controller σ
  found : List Uid

namespace Search

variable {σ ε α : Type}

/-- Lets the controller do something. -/
def onController (a : Run (Controller σ) (ControllerError ε) α) :
    Run (Search σ) (ControllerError ε) α :=
  a.within Search.controller fun s controller => { s with controller }

/-- Tells of a device that was found. -/
def report (uid : Uid) : Run (Search σ) (ControllerError ε) Unit :=
  modify fun s => { s with found := s.found ++ [uid] }

/-- The requests that the configuration allows without an answer. -/
def tries (config : SearchConfig) : Nat := max config.attempts.toNat 1

/-- Probes a branch until somebody answers. -/
def probe (link : ControllerLink σ ε) (branch : Branch) :
    Nat → Run (Search σ) (ControllerError ε) ProbeResult
  | 0 => return .nobody
  | tries + 1 => do
    match ← onController (Controller.probe link branch) with
    | .nobody => probe link branch tries
    | answer => return answer

/-- Mutes a device. Only errors of the link's own end the search; with any other the device has not answered. -/
def mute (link : ControllerLink σ ε) (uid : Uid) :
    Nat → Run (Search σ) (ControllerError ε) (Option MuteReply)
  | 0 => return none
  | tries + 1 => do
    match ← (onController (Controller.mute link (.device uid))).attempt with
    | .ok reply => return reply
    | .error (.link (.driver e)) => throw (.link (.driver e))
    | .error _ => mute link uid tries

/-- A device with several ports is known by the identifier of the first one. -/
def nameOf (uid : Uid) (reply : MuteReply) : Uid := reply.binding.getD uid

/-- Mutes the device with the single value of a branch, and tells by which identifier it is known. -/
def muteLeaf (config : SearchConfig) (link : ControllerLink σ ε) (value : Nat) :
    Run (Search σ) (ControllerError ε) (Option Uid) :=
  match Uid.ofValue? value with
  | .error _ => return none
  | .ok uid => do
    match ← mute link uid (tries config) with
    | some reply => return some (nameOf uid reply)
    | none =>
      if !config.swapFallback then return none
      match uid.swapBytes with
      | none => return none
      | some swapped => return (← mute link swapped 1).map (nameOf swapped)

/-- Mutes the device that was alone in its answer and probes the branch again, as long as one device answers
alone. -/
def quickFind (config : SearchConfig) (link : ControllerLink σ ε) (branch : Branch) :
    Nat → ProbeResult → Run (Search σ) (ControllerError ε) ProbeResult
  | rounds + 1, .found uid => do
    if let some reply ← mute link uid (tries config) then report (nameOf uid reply)
    quickFind config link branch rounds (← probe link branch (tries config))
  | _, answer => return answer

/-- Looks into a branch, and tells whether its halves have to be searched. -/
def visit (config : SearchConfig) (link : ControllerLink σ ε) (branch : Branch) :
    Run (Search σ) (ControllerError ε) Bool := do
  if branch.isLeaf then
    if let some uid ← muteLeaf config link branch.lower then report uid
    return false
  else
    match ← probe link branch (tries config) with
    | .nobody => return false
    | answer =>
      if !config.quickFind then return true
      return (← quickFind config link branch quickFindRounds answer) != .nobody

/-- A bound for the visits that a pending branch can lead to. -/
def visits (branch : Branch) : Nat := 2 * (branch.upper - branch.lower) + 1

/-- A bound for the visits that all pending branches can lead to. -/
def pendingVisits (stack : BranchStack) : Nat :=
  stack.pending.foldr (fun branch total => visits branch + total) 0

theorem pendingVisits_pop {stack rest : BranchStack} {branch : Branch}
    (h : stack.pop? = some (branch, rest)) : pendingVisits stack = visits branch + pendingVisits rest := by
  obtain ⟨_ | ⟨b, bs⟩⟩ := stack
  · simp [BranchStack.pop?] at h
  · simp only [BranchStack.pop?, Option.some.injEq, Prod.mk.injEq] at h
    obtain ⟨rfl, rfl⟩ := h
    simp [pendingVisits]

theorem pendingVisits_pushSplit {stack more : BranchStack} {branch : Branch}
    (hb : branch.lower ≤ branch.upper) (h : stack.pushSplit? branch = some more) :
    pendingVisits more < visits branch + pendingVisits stack := by
  unfold BranchStack.pushSplit? Branch.split Branch.isLeaf at h
  by_cases hl : branch.lower = branch.upper
  · simp [hl] at h
  · simp only [beq_iff_eq, hl, ↓reduceIte] at h
    split at h
    · simp at h
    · simp only [Option.some.injEq] at h
      subst h
      simp only [pendingVisits, visits, List.foldr_cons]
      omega

/-- Searches all pending branches, the lower ones first. A branch without values holds no device. -/
def searchAll (config : SearchConfig) (link : ControllerLink σ ε) (stack : BranchStack) :
    Run (Search σ) (ControllerError ε) Unit :=
  match _h : stack.pop? with
  | none => return ()
  | some (branch, rest) =>
    if _hb : branch.upper < branch.lower then searchAll config link rest
    else do
      if ← visit config link branch then
        match _hs : rest.pushSplit? branch with
        | some more => searchAll config link more
        | none => searchAll config link rest
      else searchAll config link rest
termination_by pendingVisits stack
decreasing_by
  all_goals
    have hp := pendingVisits_pop _h
    have hv : 0 < visits branch := Nat.succ_pos _
  · omega
  · have := pendingVisits_pushSplit (by omega) _hs
    omega
  · omega
  · omega

/-- Finds all devices: makes them take part, and searches the whole address space. Tells how many reports there
were. -/
def whole (config : SearchConfig) (link : ControllerLink σ ε) : Run (Search σ) (ControllerError ε) Nat := do
  let _ ← onController (Controller.unMute link .broadcast)
  searchAll config link .whole
  return (← MonadState.get).found.length

/-- Places for identifiers after the first of them were filled; what does not fit is lost. -/
def fillSlots (slots found : List Uid) : List Uid :=
  found.take slots.length ++ slots.drop found.length

end Search

/-- Searches for all devices, and tells how many and which were found, the latter also before an error. -/
def Controller.discover {σ ε : Type} (config : SearchConfig) (link : ControllerLink σ ε) (c : Controller σ) :
    Except (ControllerError ε) Nat × List Uid × Controller σ :=
  let (r, s) := (Search.whole config link).runFrom ⟨c, []⟩
  (r, s.found, s.controller)

end LightBus
