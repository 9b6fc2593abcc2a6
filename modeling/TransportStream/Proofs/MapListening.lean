import TransportStream.Proofs.RoleInvariant

/-!
Which announced program maps are listened to. A map PID that was busy when it was announced
gets no filter of its own, and nothing gives it one when the other role ends.
-/
namespace TransportStream

/-- A role that a program map or a conditional access table gives, and takes away again. -/
def StreamClass.isPassing : StreamClass → Bool
  | .ecm | .emm | .pes => true
  | .pat | .pmt | .cat => false

namespace Router

variable {host : Host} {router before after : Router} {pid : Nat}

/-- Whether the sections of a PID are collected. -/
def Listening (router : Router) (pid : Nat) : Prop :=
  ∃ stream filter, router.streams.get? pid = some stream ∧ stream.reassembly = .sections filter

/-- Whether nothing is received on a PID since it lost a passing role. -/
def Released (router : Router) (pid : Nat) : Prop :=
  router.streams.get? pid = none ∧ (router.lastRole pid).any StreamClass.isPassing = true

instance (router : Router) (pid : Nat) : Decidable (router.Released pid) :=
  inferInstanceAs (Decidable (_ ∧ _))

/-- Whether a PID has a role, or had a passing one last. -/
def Used (router : Router) (pid : Nat) : Prop :=
  (∃ stream, router.streams.get? pid = some stream) ∨
    (router.lastRole pid).any StreamClass.isPassing = true

/-! ### Once used, a PID stays used unless the association table drops it -/

theorem Used.quiet (used : Used before pid) (same : SameRoles before after) :
    Used after pid := by
  rcases used with ⟨stream, found⟩ | passed
  · obtain ⟨current, found, _⟩ := same.symm.stream found
    exact .inl ⟨current, found⟩
  · right
    rw [show after.lastRole pid = before.lastRole pid from same.counted pid]
    exact passed

theorem Used.without {other : Nat} {output : Output} (used : Used router pid)
    (sound : Sound router) (present : router.outputs.get? other = some output) :
    Used (router.without other) pid := by
  by_cases same : pid = other
  · subst same
    obtain ⟨stream, found, ofClass⟩ := sound.heard pid output present
    have last := sound.counted pid stream found
    rw [ofClass] at last
    right
    rw [show (router.without pid).lastRole pid = some .pes from last]
    rfl
  · rcases used with ⟨stream, found⟩ | passed
    · left
      refine ⟨stream, ?_⟩
      rw [streams_without, if_neg same]
      exact found
    · exact .inr passed

/-- Drawing a passing class anew. -/
theorem Used.retrack (used : Used router pid) (cls : StreamClass) (sound : Sound router)
    (passing : cls.isPassing = true) (pids : List Nat) : Used (router.retrack cls pids) pid := by
  cases retracked router cls pids pid with
  | stays stream role _ =>
    rw [Used, stream, role]
    exact used
  | gone found ofClass _ role _ =>
    have last := sound.counted pid _ found
    rw [ofClass] at last
    right
    rw [role, last]
    exact passing
  | added _ stream _ _ => exact .inl ⟨_, stream⟩

/-- Map PIDs are used as soon as they are announced. -/
theorem used_of_followed {pat : Pat} {entry : PatEntry} (member : entry ∈ pat.programs) :
    Used (router.followMaps pat) entry.mapPid := by
  have listed : entry.mapPid ∈ pat.programs.map (·.mapPid) := List.mem_map_of_mem member
  cases retracked router .pmt (pat.programs.map (·.mapPid)) entry.mapPid with
  | stays stream _ there =>
    obtain ⟨held, found⟩ := there listed
    exact .inl ⟨held, stream.trans found⟩
  | gone _ _ _ _ unlisted => exact absurd listed unlisted
  | added _ stream _ _ => exact .inl ⟨_, stream⟩

theorem Used.considerStream (used : Used router pid) (host : Host) (pmt : Pmt)
    (stream : PmtStream) : Used (considerStream host pmt router stream) pid := by
  have considered := considered host pmt router stream
  generalize Router.considerStream host pmt router stream = after at considered ⊢
  cases considered with
  | settled decided => exact used
  | declined outputs declined refused same =>
    have declining : Used (router.decline stream.pid) pid := used
    exact declining.quiet same
  | added outputs declined supported free accepted =>
    rw [Used, streams_addOutput, lastRole_addOutput]
    by_cases same : pid = (infoOf pmt stream).pid
    · exact .inl ⟨_, if_pos same⟩
    · rw [if_neg same, if_neg same]
      exact used

theorem Used.adoptMap (used : Used router pid) (sound : Sound router) (host : Host)
    (pmt : Pmt) : Used (router.adoptMap host pmt) pid := by
  apply considerAll_holds (fun after => after.Used pid)
  · exact fun after stream used => used.considerStream host pmt stream
  · refine Used.retrack ?_ .ecm (sound.filterDeclined _) rfl _
    exact used

theorem considerStream_tables (host : Host) (pmt : Pmt) (router : Router) (stream : PmtStream) :
    (considerStream host pmt router stream).tables = router.tables := by
  unfold considerStream requestOutput
  split
  · rfl
  · dsimp only
    split
    · rfl
    · split
      · rfl
      · split <;> rfl

theorem adoptMap_tables (router : Router) (host : Host) (pmt : Pmt) :
    (router.adoptMap host pmt).tables = router.tables := by
  apply considerAll_holds (fun after => after.tables = router.tables)
  · exact fun after stream same => (considerStream_tables host pmt after stream).trans same
  · exact (retrack_rest ..).2.1

theorem isMapPid_iff {tables : TableTracker} :
    tables.isMapPid pid = true ↔
      ∃ pat entry, tables.pat = some pat ∧ entry ∈ pat.programs ∧ entry.mapPid = pid := by
  simp [TableTracker.isMapPid, Pat.isMapPid, Option.any_eq_true]

/-- Every map PID of the association table in force is used, in every router that can be
reached. -/
theorem Reachable.used (reached : Reachable host router) :
    ∀ pid, router.tables.isMapPid pid = true → router.Used pid := by
  induction reached with
  | start options =>
    intro pid announced
    cases announced
  | quiet reached same ih =>
    intro pid announced
    rw [TableTracker.isMapPid, same.pat] at announced
    exact (ih pid announced).quiet same
  | remove reached present ih =>
    intro pid announced
    exact (ih pid announced).without reached.sound present
  | @associate router tables pat reached applied ih =>
    intro pid announced
    rw [followMaps, (retrack_rest ..).2.1, isMapPid_iff] at announced
    obtain ⟨current, entry, inForce, member, rfl⟩ := announced
    rw [applied] at inForce
    cases inForce
    exact used_of_followed member
  | entitle reached pids ih =>
    intro pid announced
    rw [(retrack_rest ..).2.1] at announced
    exact (ih pid announced).retrack .emm reached.sound rfl pids
  | @forget router reached ih =>
    intro pid announced
    change (router.retrack .ecm []).tables.isMapPid pid = true at announced
    rw [(retrack_rest ..).2.1] at announced
    exact (ih pid announced).retrack .ecm reached.sound rfl []
  | adopt reached pmt ih =>
    intro pid announced
    rw [adoptMap_tables] at announced
    exact (ih pid announced).adoptMap reached.sound host pmt

/-- A PID that is listened to for anything has a section filter or an output. -/
theorem Sound.listening_or_output {stream : StreamState} (sound : Sound router)
    (found : router.streams.get? pid = some stream) :
    router.Listening pid ∨ ∃ output, router.outputs.get? pid = some output := by
  cases kind : stream.reassembly with
  | sections filter => exact .inl ⟨stream, filter, found, kind⟩
  | pes reassembler =>
    right
    apply sound.owned pid stream found
    rw [← sound.kinds pid stream found, kind]
    rfl

end Router

/-- A map PID of the association table in force has a section filter or an output, exactly
unless it was busy in a passing role and lost it. -/
theorem Session.announced_listening_iff {host : Host} {session : Session} {pid : Nat}
    (reached : session.Reachable host)
    (announced : session.router.tables.isMapPid pid = true) :
    (session.router.Listening pid ∨ ∃ output, session.router.outputs.get? pid = some output) ↔
      ¬session.router.Released pid := by
  have sound := reached.router.sound
  constructor
  · rintro (⟨stream, filter, found, _⟩ | ⟨output, present⟩) ⟨free, _⟩
    · rw [found] at free
      cases free
    · obtain ⟨stream, found, _⟩ := sound.heard pid output present
      rw [found] at free
      cases free
  · intro unreleased
    cases found : session.router.streams.get? pid with
    | some stream => exact sound.listening_or_output found
    | none =>
      rcases reached.router.used pid announced with ⟨stream, there⟩ | passed
      · rw [found] at there
        cases there
      · exact absurd ⟨found, passed⟩ unreleased

/-- An association table that announces a map on PID 0x1E0. -/
private def announcing : Bytes :=
  Pat.encode {
    version := 0, currentNext := true, number := 0, last := 0
    streamId := 1, programs := [⟨1, 0x1E0⟩], networkPid := none }

/-- A conditional access table that sends entitlement messages over PIDs. -/
private def entitling (version : Nat) (pids : List Nat) : Bytes :=
  Cat.encode {
    version, currentNext := true, number := 0, last := 0
    descriptors := pids.map (fun pid =>
      ⟨0x09, [0x0B, 0x00, UInt8.ofNat (0xE0 + pid / 256), UInt8.ofNat pid]⟩) }

/-- A PID of entitlement messages that gave them up before a map was announced on it: the map is
listened to. -/
theorem Session.announced_map_listening :
    ∃ session, Session.Reachable .willing session ∧
      session.router.tables.isMapPid 0x1E0 = true ∧
      (session.router.Listening 0x1E0 ∨ ∃ output, session.router.outputs.get? 0x1E0 = some output) := by
  let session := Session.fed [(catPid, 0, entitling 0 [0x1E0]), (catPid, 1, entitling 1 [0x1F0]),
    (patPid, 0, announcing)]
  have reached : session.Reachable .willing := Session.fed_reachable _
  have announced : session.router.tables.isMapPid 0x1E0 = true := by decide +kernel
  refine ⟨session, reached, announced, ?_⟩
  exact (Session.announced_listening_iff reached announced).mpr (by decide +kernel)

/-- Once entitlement messages have come and gone on a map PID before its map did, the map
is not listened to. -/
theorem Session.released_map_deaf :
    ∃ session, Session.Reachable .willing session ∧
      session.router.tables.isMapPid 0x1E0 = true ∧ ¬session.router.Listening 0x1E0 ∧
      session.router.outputs.get? 0x1E0 = none := by
  let session := Session.fed [(catPid, 0, entitling 0 [0x1E0]), (patPid, 0, announcing),
    (catPid, 1, entitling 1 [])]
  refine ⟨session, Session.fed_reachable _, by decide +kernel, ?_, by decide +kernel⟩
  rintro ⟨stream, filter, found, _⟩
  have free : session.router.streams.get? 0x1E0 = none := by decide +kernel
  rw [free] at found
  cases found

end TransportStream
