import EntitySearch.Proofs.Session.Watched

/-!
# Locks of bridges

At most one caller has the lock of a bridge, and while it has it nobody else changes the bridge or stops
a queue that was started for it. So what each of them knows stays right, whatever the others do with
other bridges and whatever else happens.

* `Grips`: who has the lock of which bridge, and what it knows.
* `Session.Held`: that bridges and queues are as those know who have the locks.
* `Session.Held.quiet`, `Session.Held.moving`: that they are so after everything that happens.
-/

namespace EntitySearch

/-- Who has the lock of which bridge, and what it knows. -/
def Grips := Nat → Option (Nat × Hold)

namespace Grips

/-- What a caller knows of a bridge if it has its lock. -/
def of? (grips : Grips) (number caller : Nat) : Option Hold :=
  match grips number with
  | some (holder, hold) => if holder = caller then some hold else none
  | none => none

/-- A caller comes to know something of a bridge, or lets its lock go. -/
def set (grips : Grips) (number caller : Nat) (hold : Option Hold) : Grips := fun other =>
  if other = number then hold.map (caller, ·) else grips other

variable {grips : Grips} {number caller : Nat} {hold : Hold}

theorem of?_eq_some (h : grips.of? number caller = some hold) :
    grips number = some (caller, hold) := by
  unfold of? at h
  split at h
  · next holder known same =>
    split at h
    · next own =>
      cases h
      rw [same, own]
    · cases h
  · cases h

theorem set_self_hold (grips : Grips) (number caller : Nat) (hold : Option Hold) :
    (grips.set number caller hold number).map (·.2) = hold := by
  rw [set, if_pos rfl]
  cases hold <;> rfl

theorem set_self (grips : Grips) (number caller : Nat) (hold : Option Hold) :
    grips.set number caller hold number = hold.map (caller, ·) := if_pos rfl

theorem set_other {other : Nat} (different : other ≠ number) (hold : Option Hold) :
    grips.set number caller hold other = grips other := if_neg different

theorem of?_set_self (grips : Grips) (number caller : Nat) (hold : Option Hold) :
    (grips.set number caller hold).of? number caller = hold := by
  rw [of?, set_self]
  cases hold with
  | none => rfl
  | some hold => exact if_pos rfl

theorem of?_set_other {hold : Option Hold} {bridge other : Nat} (different : other ≠ caller)
    (free : grips.of? number other = none) :
    (grips.set number caller hold).of? bridge other = grips.of? bridge other := by
  by_cases same : bridge = number
  · rw [same, free, of?, set_self]
    cases hold with
    | none => rfl
    | some hold => exact if_neg different.symm
  · rw [of?, of?, set_other same]

end Grips

/-! ## Bridges and queues -/

/-- What holds of the bridges and queues of a session at every moment. -/
structure Session.Held (session : Session) (intact : Prop) (owners : List Nat)
    (moments : List Moment) (grips : Grips) : Prop where
  staffed : session.Staffed intact moments
  length : owners.length = session.queues.length
  watched : ∀ number bridge, session.bridge? number = some bridge →
    bridge.Watched number intact owners session ((grips number).map (·.2))

namespace Session.Held

variable {session later : Session} {intact : Prop} {owners : List Nat} {moments : List Moment}
  {grips : Grips} {number caller : Nat} {bridge : Bridge}

/-- What neither changes a bridge nor stops a queue. -/
theorem quiet (h : session.Held intact owners moments grips) {event : SessionEvent}
    (ha : session.after? event = some later) (whole : intact → ∀ number, event ≠ .breakDown number)
    (quiet : (⟨session, event, later⟩ : Moment).Quiet) :
    later.Held intact owners (moments ++ [⟨session, event, later⟩]) grips := by
  obtain ⟨bridges, length⟩ := quiet_after? ha quiet
  refine ⟨h.staffed.after ha whole, h.length.trans length.symm, fun number bridge hosted => ?_⟩
  rw [bridges] at hosted
  refine (h.watched number bridge hosted).after h.staffed ha fun queue _ made => ?_
  exact quiet _ made rfl

/-- Somebody who makes requests while it opens or closes a bridge is the only one who has its lock. -/
theorem alone (h : session.Held intact owners moments grips)
    (hosted : session.bridge? number = some bridge) {grip : Grip} {final : BridgeState → Prop}
    (own : grip.hold? = grips.of? number caller) {request : SystemRequest}
    (permitted : (System.moving number intact final).permits grip request)
    {reply : System.Reply request} (served : session.serve? request = some (reply, later))
    {other : Nat} (different : other ≠ caller) : grips.of? number other = none := by
  rw [Option.eq_none_iff_forall_ne_some]
  intro hold known
  have known := Grips.of?_eq_some known
  rcases System.cases_of_moving permitted with ⟨-, rfl⟩ | ⟨hold, rfl⟩
  · obtain ⟨_, after, present, serves, -⟩ := bridge?_serveBridge? served
    rw [hosted] at present
    cases present
    rw [Bridge.serve?] at serves
    split at serves
    · cases serves
    · next unlocked =>
      obtain ⟨free, -⟩ := (h.watched number bridge hosted).lock (Bool.eq_false_iff.mpr unlocked)
      rw [known] at free
      cases free
  · rw [Grips.of?_eq_some own.symm] at known
    cases known
    exact different rfl

/-- What is done with a bridge and its queues does not concern another bridge. -/
theorem others (h : session.Held intact owners moments grips) {request : SystemRequest}
    {reply : System.Reply request} (served : session.serve? request = some (reply, later))
    {other : Nat} (unstarted : other ∉ request.starts)
    (unstopped : ∀ queue : Nat, owners[queue]? = some other →
      request ≠ .queue queue (.perform .beginStop))
    (hosted : session.bridge? other = some bridge) :
    bridge.Watched other intact (owners ++ request.starts) later ((grips other).map (·.2)) := by
  have ha : session.after? (.request request) = some later :=
    congrArg (Option.map Prod.snd) served
  refine (h.watched other bridge hosted).frame (fun queue => ?_) fun queue stage own reached => ?_
  · by_cases short : queue < owners.length
    · rw [List.getElem?_append_left short]
    · rw [List.getElem?_append_right (by omega), List.getElem?_eq_none (l := owners) (by omega)]
      exact ⟨fun started => absurd (List.mem_of_getElem? started) unstarted, nofun⟩
  · exact reached.after h.staffed ha fun made => unstopped queue own (Option.some.inj made)

theorem moving_bridge (h : session.Held intact owners moments grips)
    (hosted : session.bridge? number = some bridge) {grip : Grip} {final : BridgeState → Prop}
    (own : grip.hold? = grips.of? number caller) {access : BridgeRequest}
    (permitted : (System.moving number intact final).permits grip (.bridge number access))
    {reply : System.Reply (.bridge number access)}
    (served : session.serve? (.bridge number access) = some (reply, later)) :
    ∃ grip', (System.moving number intact final).answers grip (.bridge number access) reply grip' ∧
      later.Held intact (owners ++ (SystemRequest.bridge number access).starts)
        (moments ++ [⟨session, .request (.bridge number access), later⟩])
        (grips.set number caller grip'.hold?) := by
  have ha : session.after? (.request (.bridge number access)) = some later :=
    congrArg (Option.map Prod.snd) served
  have held : ∀ hold, grip = .inside hold → (grips number).map (·.2) = some hold := by
    rintro hold rfl
    rw [Grips.of?_eq_some own.symm]
    rfl
  obtain ⟨after, grip', becomes, answers, kept⟩ :=
    (h.watched number bridge hosted).access hosted h.length h.staffed held permitted served
  obtain ⟨_, _, -, -, bridges⟩ := bridge?_serveBridge? served
  refine ⟨grip', answers, h.staffed.after ha fun _ _ => nofun, ?_, fun other bridge' present => ?_⟩
  · rcases queues_serveBridge?_eq served with ⟨unstarted, same⟩ | ⟨rfl, _, _, _, more⟩
    · rw [same, ← h.length]
      cases access with
      | startQueue => exact absurd rfl unstarted
      | _ => exact congrArg List.length (List.append_nil owners)
    · rw [more, List.length_append, List.length_append, h.length]
      rfl
  · by_cases same : other = number
    · subst same
      rw [becomes] at present
      cases present
      rw [Grips.set_self_hold]
      exact kept
    · rw [bridges, if_neg same] at present
      rw [Grips.set_other same]
      refine h.others served ?_ (fun _ _ => nofun) present
      cases access with
      | startQueue => exact fun started => same (List.mem_singleton.mp started)
      | _ => exact List.not_mem_nil

theorem moving_apart (h : session.Held intact owners moments grips)
    (hosted : session.bridge? number = some bridge) {hold : Hold} {final : BridgeState → Prop}
    (own : some hold = grips.of? number caller) {request : SystemRequest}
    (apart : ∀ other access, request ≠ .bridge other access)
    (permitted : (System.moving number intact final).permits (.inside hold) request)
    {reply : System.Reply request} (served : session.serve? request = some (reply, later)) :
    ∃ grip', (System.moving number intact final).answers (.inside hold) request reply grip' ∧
      later.Held intact (owners ++ request.starts)
        (moments ++ [⟨session, .request request, later⟩])
        (grips.set number caller grip'.hold?) := by
  have ha : session.after? (.request request) = some later :=
    congrArg (Option.map Prod.snd) served
  have watched := h.watched number bridge hosted
  rw [Grips.of?_eq_some own.symm, Option.map_some] at watched
  obtain ⟨bridges, length⟩ := bridges_serve? apart served
  have kept : request.starts = [] ∧
      (∀ queue : Nat, request = .queue queue (.perform .beginStop) →
        owners[queue]? = some number) ∧
      ∃ grip', (System.moving number intact final).answers (.inside hold) request reply grip' ∧
        bridge.Watched number intact owners later grip'.hold? := by
    cases request with
    | bridge other access => exact absurd rfl (apart other access)
    | queue queue request =>
      refine ⟨rfl, ?_, watched.stop h.staffed permitted served⟩
      rintro _ ⟨⟩
      exact (watched.leaving hold queue .running rfl permitted.2).1
    | _ =>
      refine ⟨rfl, nofun, .inside hold, rfl, ?_⟩
      exact watched.after h.staffed ha fun _ _ => nofun
  obtain ⟨unstarted, unstopped, grip', answers, kept⟩ := kept
  refine ⟨grip', answers, h.staffed.after ha fun _ _ => nofun, ?_, fun other bridge' present => ?_⟩
  · rw [unstarted, List.append_nil, length, h.length]
  rw [bridge?, bridges] at present
  by_cases same : other = number
  · subst same
    rw [← bridge?, hosted] at present
    cases present
    rw [Grips.set_self_hold, unstarted, List.append_nil]
    exact kept
  · rw [Grips.set_other same]
    refine h.others served (unstarted ▸ List.not_mem_nil) (fun queue own made => same ?_) present
    rw [unstopped queue made] at own
    exact (Option.some.inj own).symm

/-- **A request of somebody who opens or closes a bridge** leaves everything as those know who have
the locks. -/
theorem moving (h : session.Held intact owners moments grips)
    (hosted : session.bridge? number = some bridge) {grip : Grip} {final : BridgeState → Prop}
    (own : grip.hold? = grips.of? number caller) {request : SystemRequest}
    (permitted : (System.moving number intact final).permits grip request)
    {reply : System.Reply request} (served : session.serve? request = some (reply, later)) :
    ∃ grip', (System.moving number intact final).answers grip request reply grip' ∧
      later.Held intact (owners ++ request.starts)
        (moments ++ [⟨session, .request request, later⟩])
        (grips.set number caller grip'.hold?) := by
  by_cases access : ∃ other access, request = .bridge other access
  · obtain ⟨other, access, rfl⟩ := access
    obtain rfl := System.own_of_moving permitted
    exact h.moving_bridge hosted own permitted served
  have apart : ∀ other access, request ≠ .bridge other access :=
    fun _ _ same => access ⟨_, _, same⟩
  rcases System.cases_of_moving permitted with ⟨-, same⟩ | ⟨hold, rfl⟩
  · exact absurd same (apart _ _)
  · exact h.moving_apart hosted own apart permitted served

end Session.Held

end EntitySearch
