import AssetWatch.Host.Kernel

/-!
# Letting time pass

Of the processes that are ready, the one that has been so for longest does its next step. When
none can, time moves on to the next moment at which something happens.
-/

namespace AssetWatch.Host.State

/-- The processes that may go on now, the longest ready in front. -/
def ready (s : State) : List Process :=
  let ready := s.processes.filter fun p => p.isLive && !p.isHalted && p.readyAt ≤ s.now
  match ready with
  | [] | [_] => ready
  | _ => ready.mergeSort fun p q => p.readyAt ≤ q.readyAt

/-- One step of the first process that does not have to wait. -/
def step? (programs : String → Option Program) (s : State) : Option State :=
  s.ready.findSome? (s.advance programs)

/-- The next moment at which something may happen. -/
def nextTime? (s : State) : Option Nat :=
  let times := s.processes.flatMap fun p =>
    if !p.isLive then []
    else
      let own := if p.isHalted then p.limit?.toList
        else p.readyAt :: (p.limit?.toList ++ (deadline? p.task).toList)
      own.filter (s.now < ·)
  times.min?

/-- Stops the processes whose time is up. -/
def stopOverdue (s : State) : State :=
  let overdue := s.processes.filter fun p =>
    p.isLive && (p.limit?.map fun limit => decide (limit ≤ s.now)).getD false
  overdue.foldl (fun s p => s.finish p.id (.killed Signal.kill)) s

/-- More steps than any run takes. -/
def endless : Nat := 1000000000000

/-- Goes on until something has happened, or the time has come, or nothing can happen any
more. -/
def proceed (programs : String → Option Program) (stop : State → Bool) (until? : Option Nat) :
    (fuel : Nat) → State → State
  | 0, s => s
  | fuel + 1, s =>
    if stop s then s
    else match s.step? programs with
      | some s => s.proceed programs stop until? fuel
      | none =>
        match s.nextTime?, until? with
        | none, none => s
        | none, some limit => s.setNow (max s.now limit)
        | some time, none => (s.setNow time).stopOverdue.proceed programs stop until? fuel
        | some time, some limit =>
          if limit < time then s.setNow (max s.now limit)
          else (s.setNow time).stopOverdue.proceed programs stop until? fuel

end AssetWatch.Host.State
