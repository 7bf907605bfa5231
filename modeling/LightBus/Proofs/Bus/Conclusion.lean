import LightBus.Bus

/-!
# The end of a reception

The slots that were counted so far end the reception or do not (`Bus.concluded_conclude`).  After a package or a
discovery response the bus may turn around at once (`Bus.Over`).
-/

namespace LightBus

variable {slots : List UInt8} {afterBreak : Bool} {g size : Nat} {kind : FrameKind}

private theorem classifyReply_size_le (h : classifyReply slots = .complete kind size) : size ≤ slots.length := by
  unfold classifyReply at h
  split at h
  · cases h
  split at h
  · split at h
    · cases h
      assumption
    · cases h
  · split at h <;> cases h

/-- Whatever is complete lies in the slots. -/
theorem classify_size_le (h : classify slots afterBreak g = .complete kind size) : size ≤ slots.length := by
  unfold classify at h
  split at h
  · cases h
  split at h
  · exact classifyReply_size_le h
  split at h
  · split at h
    · cases h
    · split at h
      · cases h
        assumption
      · cases h
  · split at h
    · cases h
      assumption
    · cases h

namespace Bus

variable {b : Bus} {status : Status} {now : Nat} {result : List Effect × Bus}

/-- The reception has ended with the status, and the bus has turned around at once or not. -/
inductive Over (b : Bus) (status : Status) (kind : FrameKind) (size now : Nat) : List Effect × Bus → Prop
  | stays : Over b status kind size now (b.finish status kind size now)
  | turns : Over b status kind size now
      ((b.finish status kind size now).1 ++ (b.finish status kind size now).2.turnAround.1,
        (b.finish status kind size now).2.turnAround.2)

theorem over_finishPackage (b : Bus) (size now : Nat) :
    Over b (packageStatus (b.frame.take size)) .package size now (b.finishPackage size now) := by
  unfold finishPackage
  dsimp only
  split
  · exact .turns
  · exact .stays

theorem over_finishReply (b : Bus) (size now : Nat) :
    Over b (replyStatus (b.frame.take size)) .discoveryReply size now (b.finishReply size now) := by
  unfold finishReply
  dsimp only
  split
  · exact .turns
  · exact .stays

/-- All that was received is still there. -/
theorem Over.after (h : Over b status kind size now result) : result.2.rx = .complete ∧
    result.2.rxKind = kind ∧ result.2.frame = b.frame ∧ result.2.cursor = b.cursor ∧
      result.2.sizeGuess = b.sizeGuess := by
  cases h with
  | stays => exact ⟨rfl, rfl, rfl, rfl, rfl⟩
  | turns => exact ⟨rfl, rfl, rfl, rfl, rfl⟩

/-- The reception goes on, it has failed, or it has ended with slots that were counted. -/
inductive Concluded (b : Bus) (now : Nat) : List Effect × Bus → Prop
  | goesOn : Concluded b now ([], b)
  | failed {status : Status} {kind : FrameKind} (hstatus : status ≠ .timeout) :
    Concluded b now (b.fail status kind now)
  | ended {status : Status} {kind : FrameKind} {size : Nat} {result : List Effect × Bus}
    (hstatus : status ≠ .timeout) (hsize : size ≤ b.cursor) (h : Over b status kind size now result) :
    Concluded b now result

private theorem packageStatus_ne_timeout (slots : List UInt8) : packageStatus slots ≠ .timeout := by
  unfold packageStatus
  split <;> exact nofun

private theorem replyStatus_ne_timeout (slots : List UInt8) : replyStatus slots ≠ .timeout := by
  unfold replyStatus
  split <;> exact nofun

theorem concluded_conclude (b : Bus) (overflow : Bool) (now : Nat) : Concluded b now (b.conclude overflow now) := by
  have hcounted {kind : FrameKind} {size : Nat}
      (h : classify (b.frame.take b.cursor) b.afterBreak b.sizeGuess = .complete kind size) : size ≤ b.cursor :=
    Nat.le_trans (classify_size_le h) (List.length_take_le _ _)
  unfold conclude
  split
  · split
    · split
      · exact .failed (by decide)
      · exact .ended (by decide) (Nat.le_refl _) .stays
    · exact .goesOn
  · exact .failed (by decide)
  · rename_i hpackage
    exact .ended (packageStatus_ne_timeout _) (hcounted hpackage) (b.over_finishPackage _ now)
  · rename_i hreply
    exact .ended (replyStatus_ne_timeout _) (hcounted hreply) (b.over_finishReply _ now)
  · rename_i hlevels
    split
    · exact .failed (by decide)
    · exact .ended (by decide) (hcounted hlevels) .stays

end Bus

end LightBus
