import TransportStream.Proofs.FramingPieces
import TransportStream.Proofs.FramingPlaces

/-!
The one way in which framing fails. It keeps count of the bytes that a search for the frame goes
behind, and fails when they are too many; from then on it fails at every further piece of input.
-/
namespace TransportStream

/-- Whether an item is a lock. -/
def SyncItem.isLock : SyncItem → Bool
  | .locked _ _ => true
  | .packet _ | .lost _ => false

namespace Synchronizer

variable {sync next : Synchronizer} {item : SyncItem} {items : List SyncItem} {limit : Nat}

/-! ### A search for the frame -/

/-- The failure of a search that went behind so many bytes. -/
def exhaustion (sync : Synchronizer) (count : Nat) : Error :=
  if sync.everLocked then .syncLost count else .noSync count

theorem checkBudget_eq (sync : Synchronizer) :
    sync.checkBudget =
      if sync.skipped ≤ sync.maxResync then .ok () else .error (sync.exhaustion sync.skipped) := by
  unfold checkBudget exhaustion
  split
  · rfl
  · split <;> rfl

/-- What a search for the frame comes to: it goes behind some bytes of the buffer, and then locks,
asks for more, or fails because that was too much. -/
inductive Sought (sync : Synchronizer) :
    Synchronizer × Except Error (Option SyncItem) → Prop where
  | locks {count stride : Nat} {arrival : Option Nat} (within : count ≤ sync.buffer.length)
      (budget : sync.skipped + count ≤ sync.maxResync) :
      Sought sync ({ (sync.discard count).lockOn stride with pendingArrival := arrival },
        .ok (some (.locked stride (sync.base + count))))
  | waits {count : Nat} (within : count ≤ sync.buffer.length)
      (budget : sync.skipped + count ≤ sync.maxResync) : Sought sync (sync.discard count, .ok none)
  | fails {count : Nat} {arrival : Option Nat} (within : count ≤ sync.buffer.length)
      (spent : sync.maxResync < sync.skipped + count) :
      Sought sync ({ sync.discard count with pendingArrival := arrival },
        .error (sync.exhaustion (sync.skipped + count)))

theorem lock_within {position : Nat} (budget : sync.skipped + position ≤ sync.maxResync)
    (stride : Nat) :
    sync.lock position stride =
      ({ (sync.discard position).lockOn stride with
          pendingArrival := sync.stampBefore position stride },
        .ok (some (.locked stride (sync.base + position)))) := by
  unfold lock
  dsimp only
  rw [checkBudget_eq, if_pos (by exact budget)]
  rfl

theorem giveUp_within {count : Nat} (budget : sync.skipped + count ≤ sync.maxResync) :
    sync.giveUp count = (sync.discard count, .ok none) := by
  unfold giveUp
  dsimp only
  rw [checkBudget_eq, if_pos (by exact budget)]
  rfl

theorem lock_sought {position : Nat} (within : position ≤ sync.buffer.length) (stride : Nat) :
    Sought sync (sync.lock position stride) := by
  by_cases budget : sync.skipped + position ≤ sync.maxResync
  · rw [lock_within budget]
    exact .locks within budget
  · unfold lock
    dsimp only
    rw [checkBudget_eq, if_neg (by exact budget)]
    exact .fails within (Nat.not_le.mp budget)

theorem giveUp_sought {count : Nat} (within : count ≤ sync.buffer.length) :
    Sought sync (sync.giveUp count) := by
  by_cases budget : sync.skipped + count ≤ sync.maxResync
  · rw [giveUp_within budget]
    exact .waits within budget
  · unfold giveUp
    dsimp only
    rw [checkBudget_eq, if_neg (by exact budget)]
    exact .fails within (Nat.not_le.mp budget)

theorem tryLock_sought (sync : Synchronizer) : Sought sync sync.tryLock := by
  have within := search_within sync.minRun sync.ended sync.candidates sync.buffer.length 0
    sync.buffer
  rw [Nat.zero_add] at within
  rw [tryLock_eq]
  generalize search sync.minRun sync.ended sync.candidates sync.buffer.length 0 sync.buffer = found
    at within
  cases found with
  | aligned position stride => exact lock_sought within stride
  | undecided position => exact giveUp_sought within
  | exhausted => exact giveUp_sought (Nat.le_refl _)

/-! ### Failure -/

/-- Whether a search has gone behind too much. -/
structure Exhausted (sync : Synchronizer) : Prop where
  searching : sync.locked = false
  spent : sync.maxResync < sync.skipped

/-- What framing fails with tells how much its search went behind, and whether there ever was a
lock. -/
theorem nextItem_error {error : Error} (failed : sync.nextItem = (next, .error error)) :
    next.Exhausted ∧ error = next.exhaustion next.skipped := by
  fun_induction nextItem sync with
  | case1 => cases failed
  | case2 sync locked stride ready start fault refused ih => exact ih failed
  | case3 => cases failed
  | case4 => cases failed
  | case5 sync unlocked =>
    have sought := tryLock_sought sync
    rw [failed] at sought
    cases sought with
    | fails within spent => exact ⟨⟨by simpa [discard] using unlocked, spent⟩, rfl⟩

/-- Nothing that could come mends a search that went behind too much. -/
theorem Exhausted.next_fails (exhausted : sync.Exhausted) :
    ∃ next error, sync.nextItem = (next, .error error) := by
  rw [nextItem_unlocked sync (by simp [exhausted.searching])]
  have sought := tryLock_sought sync
  have spent := exhausted.spent
  generalize sync.tryLock = result at sought
  cases sought with
  | locks within budget => omega
  | waits within budget => omega
  | fails within spent => exact ⟨_, _, rfl⟩

theorem drain_error {error : Error} (failed : sync.drain.2.2 = some error) :
    sync.drain.1.Exhausted ∧ error = sync.drain.1.exhaustion sync.drain.1.skipped := by
  fun_induction drain sync with
  | case1 sync next fault step =>
    cases failed
    exact nextItem_error step
  | case2 => cases failed
  | case3 sync next item step last items fault result ih =>
    rw [result] at ih
    exact ih failed

theorem Exhausted.drain_fails (exhausted : sync.Exhausted) :
    ∃ error, sync.drain.2.2 = some error := by
  obtain ⟨next, error, failed⟩ := exhausted.next_fails
  exact ⟨error, by rw [drain_eq, failed]⟩

/-! ### The account of a search -/

/-- A search for the frame begins where the stream does, or where the frame was lost: no item has
come since. -/
inductive SearchFrom : List SyncItem → Nat → Prop where
  | start : SearchFrom [] 0
  | lost (items : List SyncItem) (place : Nat) : SearchFrom (items ++ [.lost place]) place

/-- What framing keeps count of, behind all items that it gave. -/
structure Accounts (limit : Nat) (items : List SyncItem) (sync : Synchronizer) : Prop where
  limit : sync.maxResync = limit
  locks : sync.everLocked = items.any SyncItem.isLock
  idle : sync.locked = true → sync.skipped = 0
  search : sync.locked = false → ∃ start, SearchFrom items start ∧ sync.base = start + sync.skipped

/-- `Overspends limit items base error`: behind these items, and at this place of the stream, there
is a failure because a search went behind more bytes than the limit. -/
def Overspends (limit : Nat) (items : List SyncItem) (base : Nat) (error : Error) : Prop :=
  ∃ start count, SearchFrom items start ∧ base = start + count ∧ limit < count ∧
    error = if items.any SyncItem.isLock then .syncLost count else .noSync count

theorem accounts_start (options : Options) :
    Accounts options.maxResyncBytes [] (ofOptions options) :=
  ⟨rfl, rfl, nofun, fun _ => ⟨0, .start, rfl⟩⟩

theorem Accounts.overspends (accounts : Accounts limit items sync) (exhausted : sync.Exhausted) :
    Overspends limit items sync.base (sync.exhaustion sync.skipped) := by
  obtain ⟨start, search, place⟩ := accounts.search exhausted.searching
  refine ⟨start, sync.skipped, search, place, accounts.limit ▸ exhausted.spent, ?_⟩
  rw [exhaustion, accounts.locks]

/-- The item that framing handed on, if there is one. -/
def handed : Except Error (Option SyncItem) → List SyncItem
  | .ok item => item.toList
  | .error _ => []

theorem Accounts.sought (accounts : Accounts limit items sync) (unlocked : sync.locked = false) :
    Accounts limit (items ++ handed sync.tryLock.2) sync.tryLock.1 := by
  obtain ⟨start, search, place⟩ := accounts.search unlocked
  have passed (count : Nat) : sync.base + count = start + (sync.skipped + count) := by omega
  have idle : sync.locked = true → ∀ count, count = 0 := by simp [unlocked]
  have sought := tryLock_sought sync
  generalize sync.tryLock = result at sought
  cases sought with
  | locks within budget =>
    refine ⟨accounts.limit, ?_, fun _ => rfl, by simp [lockOn]⟩
    simp [handed, lockOn, SyncItem.isLock]
  | waits within budget =>
    simp only [handed, Option.toList_none, List.append_nil]
    exact ⟨accounts.limit, accounts.locks, fun locked => idle locked _,
      fun _ => ⟨start, search, passed _⟩⟩
  | fails within spent =>
    simp only [handed, List.append_nil]
    exact ⟨accounts.limit, accounts.locks, fun locked => idle locked _,
      fun _ => ⟨start, search, passed _⟩⟩

/-- Taking a unit, whether a packet or not, is no part of a search. -/
theorem Accounts.unit (accounts : Accounts limit items sync) (locked : sync.locked = true)
    (stride invalid : Nat) : Accounts limit items { sync.takeUnit stride with invalid } :=
  ⟨accounts.limit, accounts.locks, fun _ => accounts.idle locked, by simp [takeUnit, locked]⟩

theorem Accounts.step (accounts : Accounts limit items sync) :
    Accounts limit (items ++ handed sync.nextItem.2) sync.nextItem.1 := by
  fun_induction nextItem sync with
  | case1 sync locked stride ready start packet parsed =>
    have taken := accounts.unit locked stride sync.invalid
    refine ⟨taken.limit, ?_, taken.idle, fun unlocked =>
      absurd (locked.symm.trans unlocked) (by simp)⟩
    simp [handed, SyncItem.isLock, takeUnit, accounts.locks]
  | case2 sync locked stride ready start fault refused ih => exact ih (accounts.unit locked _ _)
  | case3 sync locked stride ready noStart =>
    refine ⟨accounts.limit, ?_, by simp [lose, discard], fun _ => ⟨sync.base, .lost .., ?_⟩⟩
    · simp [handed, SyncItem.isLock, lose, discard, accounts.locks]
    · simp [lose, discard, accounts.idle locked]
  | case4 sync locked stride notReady =>
    simp only [handed, Option.toList_none, List.append_nil]
    exact accounts
  | case5 sync unlocked => exact accounts.sought (by simpa using unlocked)

theorem Accounts.drained (accounts : Accounts limit items sync) :
    Accounts limit (items ++ sync.drain.2.1) sync.drain.1 := by
  fun_induction drain sync generalizing items with
  | case1 sync next error step =>
    have after := accounts.step
    rwa [step] at after
  | case2 sync next step =>
    have after := accounts.step
    rwa [step] at after
  | case3 sync next item step last others error result ih =>
    have after := accounts.step
    rw [step] at after
    have later := ih after
    rwa [result, handed, Option.toList_some, List.append_assoc, List.singleton_append] at later

theorem Accounts.push (accounts : Accounts limit items sync) (data : Bytes) :
    Accounts limit items (sync.push data) :=
  ⟨accounts.limit, accounts.locks, accounts.idle, accounts.search⟩

theorem Accounts.finish (accounts : Accounts limit items sync) : Accounts limit items sync.finish :=
  ⟨accounts.limit, accounts.locks, accounts.idle, accounts.search⟩

/-- When framing fails, its search went behind more than the limit since the last lock. -/
theorem Accounts.drain_overspends {error : Error} (accounts : Accounts limit items sync)
    (failed : sync.drain.2.2 = some error) :
    Overspends limit (items ++ sync.drain.2.1) sync.drain.1.base error := by
  obtain ⟨exhausted, told⟩ := drain_error failed
  rw [told]
  exact accounts.drained.overspends exhausted

theorem Accounts.pushAll_overspends {chunks : List Bytes} {error : Error}
    (accounts : Accounts limit items sync) (failed : (sync.pushAll chunks).2.2 = some error) :
    Overspends limit (items ++ (sync.pushAll chunks).2.1) (sync.pushAll chunks).1.base error := by
  fun_induction pushAll sync chunks generalizing items with
  | case1 => cases failed
  | case2 sync chunk chunks next others fault drained =>
    have overspends := @drain_overspends _ _ _ error (accounts.push chunk)
    rw [drained] at overspends
    exact overspends failed
  | case3 sync chunk chunks next others drained last more fault result ih =>
    have after := (accounts.push chunk).drained
    rw [drained] at after
    have later := ih after
    rw [result, List.append_assoc] at later
    exact later failed

end Synchronizer

end TransportStream
