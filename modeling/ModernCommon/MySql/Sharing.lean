import ModernCommon.MySql.Connection

/-!
# Shares of the connection

What the connection class guarantees while its clients hold a given number of
shares of its instance. Taking, releasing and disconnecting move between these
guarantees; a client that gives back every share it takes also gets an exact
count.
-/

namespace ModernCommon
namespace Connections

open Library
open DataFactory (ConnectionId)

/-- The instance is the one live object, and counts at least the shares held. -/
structure Serves (shares : Nat) (connections : Connections) : Prop where
  live_iff : ∀ this, (∃ object, connections.objects.live this = some object) ↔
    connections.currentInstance = some this
  shares_le : ∀ this object, connections.objects.live this = some object →
    shares ≤ object.count.toNat
  unheld : connections.currentInstance = none → shares = 0
  deletedOnce : connections.deletions.Nodup
  deleted : ∀ this ∈ connections.deletions,
    this < connections.objects.length ∧ connections.objects.live this = none
  faultless : connections.faults = []

/-- The count can take one more share. -/
def HasRoom (connections : Connections) : Prop :=
  ∀ this object, connections.objects.live this = some object →
    object.count.toNat + 1 < 2 ^ 32

/-- The count is exact, and a disconnected instance is in use. -/
structure Settles (shares : Nat) (connections : Connections) : Prop where
  exact : ∀ this object, connections.objects.live this = some object →
    object.count.toNat = shares
  flagged : ∀ this object, connections.objects.live this = some object →
    object.destroyWhenIdle = connections.disconnected
  used : ∀ this object, connections.objects.live this = some object →
    connections.disconnected = true → 0 < shares

/-- No count exceeds the number of shares ever taken. -/
def Tallied (connections : Connections) : Prop :=
  ∀ this object, connections.objects.live this = some object →
    object.count.toNat ≤ connections.acquisitions

/-- Incrementing a count that is not full. -/
theorem toNat_add_one
    {count : UInt32}
    (notFull : count.toNat + 1 < 2 ^ 32) :
    (count + 1).toNat = count.toNat + 1 := by
  rw [UInt32.toNat_add]
  exact Nat.mod_eq_of_lt notFull

/-- Decrementing a count above zero. -/
theorem toNat_sub_one
    {count : UInt32}
    (held : count ≠ 0) :
    (count - 1).toNat = count.toNat - 1 := by
  have positive : count.toNat ≠ 0 := fun zero =>
    held (UInt32.toNat_inj.mp (by simpa using zero))
  apply UInt32.toNat_sub_of_le
  rw [UInt32.le_iff_toNat_le]
  simp only [UInt32.reduceToNat]
  omega

namespace Serves

variable {shares : Nat} {connections : Connections} {this : ConnectionId}

/-- Before the first call. -/
theorem initial : Serves 0 {} where
  live_iff := by simp
  shares_le := by simp
  unheld := by simp
  deletedOnce := List.nodup_nil
  deleted := by simp
  faultless := rfl

/-- The instance's object. -/
theorem object_of_current
    (serves : connections.Serves shares)
    (instanceIs : connections.currentInstance = some this) :
    ∃ object, connections.objects.live this = some object :=
  (serves.live_iff this).mpr instanceIs

/-- A live object is the instance. -/
theorem current_of_live
    (serves : connections.Serves shares)
    {object : MySqlConnection}
    (isLive : connections.objects.live this = some object) :
    connections.currentInstance = some this :=
  (serves.live_iff this).mp ⟨object, isLive⟩

/-- Fewer shares are served as well. -/
theorem mono
    (serves : connections.Serves shares)
    {fewer : Nat}
    (le : fewer ≤ shares) :
    connections.Serves fewer :=
  { serves with
    shares_le := fun this object isLive =>
      Nat.le_trans le (serves.shares_le this object isLive)
    unheld := fun noInstance =>
      Nat.le_zero.mp (serves.unheld noInstance ▸ le) }

/-- A count is not zero while a share is held. -/
theorem count_ne_zero
    (serves : connections.Serves (shares + 1))
    {object : MySqlConnection}
    (isLive : connections.objects.live this = some object) :
    object.count ≠ 0 := by
  intro zero
  have counted := serves.shares_le this object isLive
  rw [zero] at counted
  exact absurd counted (Nat.not_succ_le_zero shares)

/-- Without an instance nothing is live. -/
theorem live_eq_none
    (serves : connections.Serves shares)
    (noInstance : connections.currentInstance = none)
    (this : ConnectionId) :
    connections.objects.live this = none := by
  cases isLive : connections.objects.live this with
  | none => rfl
  | some object =>
      rw [serves.current_of_live isLive] at noInstance
      cases noInstance

/-- Nothing is live beside the instance. -/
theorem live_of_ne
    (serves : connections.Serves shares)
    {object : MySqlConnection}
    (isLive : connections.objects.live this = some object)
    {other : ConnectionId}
    (different : other ≠ this) :
    connections.objects.live other = none := by
  cases isOther : connections.objects.live other with
  | none => rfl
  | some object =>
      have same := serves.current_of_live isOther
      rw [serves.current_of_live isLive] at same
      exact absurd (Option.some.inj same).symm different

/-- What is live once the instance's members are assigned. -/
theorem live_write
    (serves : connections.Serves shares)
    {before : MySqlConnection}
    (isLive : connections.objects.live this = some before)
    (after : MySqlConnection)
    (address : ConnectionId) :
    (connections.write this after).objects.live address =
      if address = this then some after else none := by
  by_cases same : address = this
  · subst same
    rw [if_pos rfl]
    exact Slots.live_set_self (Slots.lt_length_of_live isLive) (some after)
  · rw [if_neg same]
    exact (Slots.live_set_ne (Ne.symm same) (some after)).trans
      (serves.live_of_ne isLive same)

/-- Nothing is live once the instance is destroyed. -/
theorem live_destroyInstance
    (serves : connections.Serves shares)
    {object : MySqlConnection}
    (isLive : connections.objects.live this = some object)
    (address : ConnectionId) :
    (connections.destroyInstance this).objects.live address = none := by
  by_cases same : address = this
  · subst same
    exact Slots.live_set_self (Slots.lt_length_of_live isLive) none
  · exact (Slots.live_set_ne (Ne.symm same) none).trans
      (serves.live_of_ne isLive same)

/-- What is live once an instance is created. -/
theorem live_create
    (serves : connections.Serves shares)
    (noInstance : connections.currentInstance = none)
    (object : MySqlConnection)
    (address : ConnectionId) :
    (connections.create object).objects.live address =
      if address = connections.objects.length then some object else none := by
  by_cases same : address = connections.objects.length
  · subst same
    rw [if_pos rfl]
    exact Slots.live_append_self connections.objects (some object)
  · rw [if_neg same]
    exact (Slots.live_append_of_ne _ _ same).trans
      (serves.live_eq_none noInstance address)

/-- What holds of the members assigned holds of all that is live. -/
theorem forall_live_write
    (serves : connections.Serves shares)
    {before after : MySqlConnection}
    (isLive : connections.objects.live this = some before)
    {property : MySqlConnection → Prop}
    (holds : property after)
    (address : ConnectionId)
    (object : MySqlConnection)
    (found : (connections.write this after).objects.live address = some object) :
    property object := by
  rw [serves.live_write isLive] at found
  split at found
  · cases found
    exact holds
  · cases found

/-- What holds of a new instance holds of all that is live. -/
theorem forall_live_create
    (serves : connections.Serves shares)
    (noInstance : connections.currentInstance = none)
    {built : MySqlConnection}
    {property : MySqlConnection → Prop}
    (holds : property built)
    (address : ConnectionId)
    (object : MySqlConnection)
    (found : (connections.create built).objects.live address = some object) :
    property object := by
  rw [serves.live_create noInstance] at found
  split at found
  · cases found
    exact holds
  · cases found

/-- Anything holds of all that is live once the instance is destroyed. -/
theorem forall_live_destroyInstance
    (serves : connections.Serves shares)
    {before : MySqlConnection}
    (isLive : connections.objects.live this = some before)
    {property : MySqlConnection → Prop}
    (address : ConnectionId)
    (object : MySqlConnection)
    (found : (connections.destroyInstance this).objects.live address = some object) :
    property object := by
  rw [serves.live_destroyInstance isLive] at found
  cases found

/-- Assigning the members of the instance. -/
theorem write
    (serves : connections.Serves shares)
    {before after : MySqlConnection}
    (isLive : connections.objects.live this = some before)
    {held : Nat}
    (counted : held ≤ after.count.toNat) :
    (connections.write this after).Serves held := by
  have instanceIs := serves.current_of_live isLive
  have liveAfter := serves.live_write isLive after
  constructor
  · intro address
    rw [liveAfter, Connections.write, instanceIs]
    by_cases same : address = this
    · simp [same]
    · simp [same, Ne.symm same]
  · exact serves.forall_live_write isLive counted
  · intro noInstance
    rw [Connections.write, instanceIs] at noInstance
    cases noInstance
  · exact serves.deletedOnce
  · intro address isDeleted
    obtain ⟨bound, gone⟩ := serves.deleted address isDeleted
    refine ⟨by simpa [Connections.write] using bound, ?_⟩
    rw [liveAfter, if_neg]
    rintro rfl
    rw [isLive] at gone
    cases gone
  · exact serves.faultless

/-- Destroying the instance leaves nothing to share. -/
theorem destroyInstance
    (serves : connections.Serves shares)
    {object : MySqlConnection}
    (isLive : connections.objects.live this = some object) :
    (connections.destroyInstance this).Serves 0 := by
  have goneAfter := serves.live_destroyInstance isLive
  constructor
  · intro address
    rw [goneAfter, Connections.destroyInstance]
    simp
  · simp [goneAfter]
  · exact fun _ => rfl
  · -- what is live has not been deleted before
    have fresh : this ∉ connections.deletions := by
      intro isDeleted
      rw [(serves.deleted this isDeleted).2] at isLive
      cases isLive
    refine List.nodup_append.mpr ⟨serves.deletedOnce, by simp, ?_⟩
    rintro address isDeleted last isLast rfl
    rw [List.mem_singleton.mp isLast] at isDeleted
    exact fresh isDeleted
  · intro address isDeleted
    refine ⟨?_, goneAfter address⟩
    simp only [Connections.destroyInstance, List.mem_append, List.mem_singleton,
      List.length_set] at isDeleted ⊢
    rcases isDeleted with before | rfl
    · exact (serves.deleted address before).1
    · exact Slots.lt_length_of_live isLive
  · exact serves.faultless

/-- A new instance has no shares yet. -/
theorem create
    (serves : connections.Serves shares)
    (noInstance : connections.currentInstance = none)
    (object : MySqlConnection) :
    (connections.create object).Serves 0 := by
  have liveAfter := serves.live_create noInstance object
  constructor
  · intro address
    rw [liveAfter, Connections.create]
    by_cases same : address = connections.objects.length
    · simp [same]
    · simp [same, Ne.symm same]
  · simp
  · exact fun _ => rfl
  · exact serves.deletedOnce
  · intro address isDeleted
    obtain ⟨bound, _⟩ := serves.deleted address isDeleted
    refine ⟨?_, ?_⟩
    · rw [Connections.create, List.length_append]
      exact Nat.lt_add_right 1 bound
    · rw [liveAfter, if_neg (Nat.ne_of_lt bound)]
  · exact serves.faultless

/-- A new instance can take a share. -/
theorem hasRoom_create
    (serves : connections.Serves shares)
    (noInstance : connections.currentInstance = none)
    (params : MySqlConnectionParams) :
    (connections.create { opened := params }).HasRoom :=
  serves.forall_live_create noInstance (Nat.one_lt_two_pow (by omega))

/-- The ghosts of the run play no part. -/
theorem ghosts
    (serves : connections.Serves shares)
    (acquisitions : Nat)
    (disconnected : Bool) :
    Serves shares { connections with acquisitions, disconnected } :=
  ⟨serves.live_iff, serves.shares_le, serves.unheld, serves.deletedOnce,
    serves.deleted, serves.faultless⟩

/-! ### The calls -/

/-- One more share of the instance. -/
theorem retain
    (serves : connections.Serves shares)
    (room : connections.HasRoom)
    (instanceIs : connections.currentInstance = some this) :
    (connections.retain this).Serves (shares + 1) ∧
      (connections.retain this).currentInstance = some this := by
  obtain ⟨object, isLive⟩ := serves.object_of_current instanceIs
  have told := serves.ghosts (connections.acquisitions + 1) connections.disconnected
  rw [retain_of_live isLive]
  refine ⟨told.write isLive ?_, instanceIs⟩
  rw [toNat_add_one (room this object isLive)]
  exact Nat.succ_le_succ (serves.shares_le this object isLive)

/-- A share of the instance, which is built first where there is none. -/
theorem getCurrentInstance
    (serves : connections.Serves shares)
    (room : connections.HasRoom)
    {params : MySqlConnectionParams}
    {opening : Opening}
    {after : Connections}
    (returned : connections.getCurrentInstance params opening =
      .ok (this, after)) :
    after.Serves (shares + 1) ∧ after.currentInstance = some this := by
  rcases getCurrentInstance_cases returned with
    ⟨instanceIs, rfl⟩ | ⟨noInstance, rfl, rfl⟩
  · exact serves.retain room instanceIs
  · have built := serves.create noInstance { opened := params }
    rw [serves.unheld noInstance]
    exact built.retain (serves.hasRoom_create noInstance params) rfl

/-- Releasing a share destroys a flagged instance with its last share, and
otherwise decrements the count. -/
theorem releaseInstance_cases
    (serves : connections.Serves (shares + 1))
    (instanceIs : connections.currentInstance = some this) :
    ∃ object, connections.objects.live this = some object ∧
      ((object.count = 1 ∧ object.destroyWhenIdle = true ∧
          connections.releaseInstance this = connections.destroyInstance this) ∨
        (¬ (object.count = 1 ∧ object.destroyWhenIdle = true) ∧
          (object.count - 1).toNat = object.count.toNat - 1 ∧
          connections.releaseInstance this =
            connections.write this { object with count := object.count - 1 })) := by
  obtain ⟨object, isLive⟩ := serves.object_of_current instanceIs
  have held := serves.count_ne_zero isLive
  refine ⟨object, isLive, ?_⟩
  by_cases last : object.count = 1 ∧ object.destroyWhenIdle = true
  · exact .inl ⟨last.1, last.2,
      releaseInstance_of_last isLive instanceIs last.1 last.2⟩
  · have kept : object.count ≠ 1 ∨ object.destroyWhenIdle = false :=
      (not_and_or.mp last).imp_right (by simp)
    exact .inr ⟨last, toNat_sub_one held, releaseInstance_of_more isLive held kept⟩

/-- Disconnecting destroys an idle instance and flags one in use. -/
theorem disconnect_cases
    (serves : connections.Serves shares) :
    (connections.currentInstance = none ∧
        connections.disconnect = { connections with disconnected := true }) ∨
      ∃ current object, connections.currentInstance = some current ∧
        connections.objects.live current = some object ∧
        ((object.count = 0 ∧ connections.disconnect =
            Connections.destroyInstance current
              { connections with disconnected := true }) ∨
          (object.count ≠ 0 ∧ connections.disconnect =
            Connections.write current { object with destroyWhenIdle := true }
              { connections with disconnected := true })) := by
  by_cases noInstance : connections.currentInstance = none
  · exact .inl ⟨noInstance, disconnect_of_none noInstance⟩
  · obtain ⟨current, instanceIs⟩ := Option.ne_none_iff_exists'.mp noInstance
    obtain ⟨object, isLive⟩ := serves.object_of_current instanceIs
    refine .inr ⟨current, object, instanceIs, isLive, ?_⟩
    by_cases idle : object.count = 0
    · exact .inl ⟨idle, disconnect_of_idle isLive instanceIs idle⟩
    · exact .inr ⟨idle, disconnect_of_held isLive instanceIs idle⟩

/-- One share less; the instance stays as long as there are others. -/
theorem releaseInstance
    (serves : connections.Serves (shares + 1))
    (instanceIs : connections.currentInstance = some this) :
    (connections.releaseInstance this).Serves shares ∧
      (0 < shares →
        (connections.releaseInstance this).currentInstance = some this) := by
  obtain ⟨object, isLive, ⟨last, flagged, destroyed⟩ | ⟨_, fewer, written⟩⟩ :=
    serves.releaseInstance_cases instanceIs
  · have counted := serves.shares_le this object isLive
    rw [last] at counted
    have noneLeft : shares = 0 := by simpa using counted
    subst noneLeft
    rw [destroyed]
    exact ⟨serves.destroyInstance isLive, fun more => absurd more (Nat.lt_irrefl 0)⟩
  · have counted := serves.shares_le this object isLive
    rw [written]
    refine ⟨serves.write isLive ?_, fun _ => instanceIs⟩
    rw [fewer]
    omega

/-- No share is lost; the instance stays as long as there are any. -/
theorem disconnect
    (serves : connections.Serves shares) :
    connections.disconnect.Serves shares ∧
      (0 < shares →
        connections.disconnect.currentInstance = connections.currentInstance) := by
  have told := serves.ghosts connections.acquisitions true
  rcases serves.disconnect_cases with
    ⟨_, same⟩ | ⟨current, object, instanceIs, isLive,
      ⟨idle, destroyed⟩ | ⟨_, flagged⟩⟩
  · rw [same]
    exact ⟨told, fun _ => rfl⟩
  · have counted := serves.shares_le current object isLive
    rw [idle] at counted
    have noneLeft : shares = 0 := by simpa using counted
    subst noneLeft
    rw [destroyed]
    exact ⟨told.destroyInstance isLive, fun more => absurd more (Nat.lt_irrefl 0)⟩
  · rw [flagged]
    exact ⟨told.write isLive (serves.shares_le current object isLive), fun _ => rfl⟩

end Serves

/-! ## Counts bounded by the shares taken -/

namespace Tallied

variable {shares : Nat} {connections : Connections} {this : ConnectionId}

/-- Taking a share tallies it. -/
theorem retain
    (tallied : connections.Tallied)
    (serves : connections.Serves shares)
    (instanceIs : connections.currentInstance = some this) :
    (connections.retain this).Tallied := by
  obtain ⟨object, isLive⟩ := serves.object_of_current instanceIs
  have told := serves.ghosts (connections.acquisitions + 1) connections.disconnected
  have added : (object.count + 1).toNat ≤ object.count.toNat + 1 := by
    rw [UInt32.toNat_add]
    exact Nat.mod_le _ _
  rw [retain_of_live isLive]
  refine told.forall_live_write isLive ?_
  exact Nat.le_trans added (Nat.succ_le_succ (tallied this object isLive))

/-- A share of the instance, or of a new one. -/
theorem getCurrentInstance
    (tallied : connections.Tallied)
    (serves : connections.Serves shares)
    {params : MySqlConnectionParams}
    {opening : Opening}
    {after : Connections}
    (returned : connections.getCurrentInstance params opening =
      .ok (this, after)) :
    after.Tallied := by
  rcases getCurrentInstance_cases returned with
    ⟨instanceIs, rfl⟩ | ⟨noInstance, rfl, rfl⟩
  · exact tallied.retain serves instanceIs
  · have talliedAfter : (connections.create { opened := params }).Tallied :=
      serves.forall_live_create noInstance (Nat.zero_le _)
    exact talliedAfter.retain (serves.create noInstance _) rfl

/-- One share less on the count. -/
theorem releaseInstance
    (tallied : connections.Tallied)
    (serves : connections.Serves (shares + 1))
    (instanceIs : connections.currentInstance = some this) :
    (connections.releaseInstance this).Tallied := by
  obtain ⟨object, isLive, ⟨_, _, destroyed⟩ | ⟨_, fewer, written⟩⟩ :=
    serves.releaseInstance_cases instanceIs
  · rw [destroyed]
    exact serves.forall_live_destroyInstance isLive
  · rw [written]
    refine serves.forall_live_write isLive ?_
    rw [fewer]
    exact Nat.le_trans (Nat.sub_le _ _) (tallied this object isLive)

/-- The same shares on the count. -/
theorem disconnect
    (tallied : connections.Tallied)
    (serves : connections.Serves shares) :
    connections.disconnect.Tallied := by
  have told := serves.ghosts connections.acquisitions true
  rcases serves.disconnect_cases with
    ⟨_, same⟩ | ⟨current, object, _, isLive, ⟨_, destroyed⟩ | ⟨_, flagged⟩⟩
  · rw [same]
    exact tallied
  · rw [destroyed]
    exact told.forall_live_destroyInstance isLive
  · rw [flagged]
    exact told.forall_live_write isLive (tallied current object isLive)

end Tallied

/-! ## Exact counts -/

namespace Settles

variable {shares : Nat} {connections : Connections} {this : ConnectionId}

/-- Before the first call. -/
theorem initial : Settles 0 {} where
  exact := by simp
  flagged := by simp
  used := by simp

/-- One more share on an exact count. -/
theorem retain
    (settles : connections.Settles shares)
    (serves : connections.Serves shares)
    (room : connections.HasRoom)
    (instanceIs : connections.currentInstance = some this) :
    (connections.retain this).Settles (shares + 1) := by
  obtain ⟨object, isLive⟩ := serves.object_of_current instanceIs
  have told := serves.ghosts (connections.acquisitions + 1) connections.disconnected
  rw [retain_of_live isLive]
  refine ⟨told.forall_live_write isLive ?_,
    told.forall_live_write isLive (settles.flagged this object isLive),
    fun _ _ _ _ => Nat.succ_pos shares⟩
  rw [toNat_add_one (room this object isLive), settles.exact this object isLive]

/-- A share of the instance, which starts out connected. -/
theorem getCurrentInstance
    (settles : connections.Settles shares)
    (serves : connections.Serves shares)
    (room : connections.HasRoom)
    {params : MySqlConnectionParams}
    {opening : Opening}
    {after : Connections}
    (returned : connections.getCurrentInstance params opening =
      .ok (this, after)) :
    after.Settles (shares + 1) := by
  rcases getCurrentInstance_cases returned with
    ⟨instanceIs, rfl⟩ | ⟨noInstance, rfl, rfl⟩
  · exact settles.retain serves room instanceIs
  · have built : (connections.create { opened := params }).Settles 0 :=
      ⟨serves.forall_live_create noInstance rfl,
        serves.forall_live_create noInstance rfl,
        fun _ _ _ disconnected => absurd disconnected Bool.false_ne_true⟩
    rw [serves.unheld noInstance]
    exact built.retain (serves.create noInstance _)
      (serves.hasRoom_create noInstance params) rfl

/-- The last share of a disconnected instance takes the instance along. -/
theorem releaseInstance
    (settles : connections.Settles (shares + 1))
    (serves : connections.Serves (shares + 1))
    (instanceIs : connections.currentInstance = some this) :
    (connections.releaseInstance this).Settles shares := by
  obtain ⟨object, isLive, ⟨_, _, destroyed⟩ | ⟨last, fewer, written⟩⟩ :=
    serves.releaseInstance_cases instanceIs
  · rw [destroyed]
    exact ⟨serves.forall_live_destroyInstance isLive,
      serves.forall_live_destroyInstance isLive,
      serves.forall_live_destroyInstance isLive⟩
  · have counted := settles.exact this object isLive
    have flagged := settles.flagged this object isLive
    rw [written]
    refine ⟨serves.forall_live_write isLive ?_,
      serves.forall_live_write isLive flagged, ?_⟩
    · rw [fewer, counted]
      exact Nat.add_sub_cancel shares 1
    · intro _ _ _ disconnected
      apply Nat.pos_of_ne_zero
      rintro rfl
      exact last ⟨UInt32.toNat_inj.mp counted, flagged.trans disconnected⟩

/-- A disconnected instance is either in use or gone. -/
theorem disconnect
    (settles : connections.Settles shares)
    (serves : connections.Serves shares) :
    connections.disconnect.Settles shares := by
  have told := serves.ghosts connections.acquisitions true
  rcases serves.disconnect_cases with
    ⟨noInstance, same⟩ | ⟨current, object, _, isLive,
      ⟨_, destroyed⟩ | ⟨used, flagged⟩⟩
  · have gone := serves.live_eq_none noInstance
    rw [same]
    constructor <;> simp [gone]
  · rw [destroyed]
    exact ⟨told.forall_live_destroyInstance isLive,
      told.forall_live_destroyInstance isLive,
      told.forall_live_destroyInstance isLive⟩
  · have counted := settles.exact current object isLive
    rw [flagged]
    refine ⟨told.forall_live_write isLive counted,
      told.forall_live_write isLive rfl, fun _ _ _ _ => ?_⟩
    apply Nat.pos_of_ne_zero
    rintro rfl
    exact used (UInt32.toNat_inj.mp counted)

end Settles

end Connections
end ModernCommon
