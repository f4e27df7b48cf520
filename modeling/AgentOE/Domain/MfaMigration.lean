import AgentOE.Collection
import AgentOE.Transition
import AgentOE.Domain.MfaSecret

/-! `migrate_mfa_to_kms.py`: one find over the users of the portal, and one update for each of
them that can be moved to the format of KMS, while users enrol with the portal. A label is one
operation on the collection. -/
namespace AgentOE.MfaMigration
open Transition Collection MfaSecret

/-- The field `mfa_secret_enc`. -/
inductive Secret where
  | missing
  | null
  | text (enc : String)
  deriving DecidableEq

structure User (Oid : Type) where
  objectId : Oid
  username : String
  mfaEnabled : Bool
  mfaSecretEnc : Secret
  mfaKmsMigratedAt : Option Nat := none
  deriving DecidableEq

/-- The update of the script, with its time. -/
def User.migrate (newEnc : String) (now : Nat) (user : User Oid) : User Oid :=
  { user with mfaSecretEnc := .text newEnc, mfaKmsMigratedAt := some now }

/-- The script and the portal have the same settings. -/
structure Env where
  aes : AesGcm
  settings : Settings
  kmsDecryptDek : List UInt8 → Option (List UInt8)

/-- KMS decrypts the data keys that it gives. -/
abbrev DataKey (env : Env) :=
  {dkp : DataKeyPair // env.kmsDecryptDek dkp.encryptedDek = some dkp.plaintextDek}

/-- `startswith`, and `$regex` with `^`. -/
def isKms (enc : String) : Bool := decide (kmsPrefix <+: enc.toList)

variable {Oid : Type} [DecidableEq Oid] (env : Env)

/-- The query of the script. A field that is null exists, and matches no expression. -/
def selected (target : Option String) (user : User Oid) : Bool :=
  user.mfaEnabled && (match user.mfaSecretEnc with
    | .missing => false
    | .null => true
    | .text enc => !isKms enc) && (target.filter (· ≠ "")).all (· = user.username)

inductive Outcome where
  /-- The secret is `None`, which has no `startswith`, outside of any `try`. -/
  | raised
  | skipped
  | failed
  | migrated (newEnc : String)
  deriving DecidableEq

/-- The loop's body for `enc_legacy`. `generated` is the answer of KMS, if there is one. -/
def reencrypt (generated : Option (DataKey env)) (nonce : Nonce) (enc : String) : Outcome :=
  if isKms enc then .skipped
  else match decryptMfaSecretEnvkey env.aes env.settings enc with
    | none => .failed
    | some secret => match encryptMfaSecretKms env.aes (generated.map (·.1)) nonce secret with
      | none => .failed
      | some newEnc => .migrated newEnc

def outcome (generated : Option (DataKey env)) (nonce : Nonce) (user : User Oid) : Outcome :=
  match user.mfaSecretEnc with
  | .missing => reencrypt env generated nonce ""
  | .null => .raised
  | .text enc => reencrypt env generated nonce enc

structure Tally where
  ok : Nat := 0
  skip : Nat := 0
  err : Nat := 0
  deriving DecidableEq

/-- `remaining` are the users that were found and are not handled yet. `enrolled` is history: the
secret that a user was last shown to set up an authenticator. -/
structure State (Oid : Type) where
  users : List (User Oid)
  dryRun : Bool := true
  remaining : List (User Oid) := []
  raised : Bool := false
  tally : Tally := {}
  enrolled : Oid → Option String

inductive Label (Oid : Type) where
  | find (dryRun : Bool) (target : Option String)
  | next (generated : Option (DataKey env)) (nonce : Nonce) (now : Nat)
  /-- The update of `portal_mfa_enroll`. -/
  | enroll (id : Oid) (secret : String) (generated : Option (DataKey env)) (nonce nonce' : Nonce)
  | setEnabled (id : Oid) (enabled : Bool)
  | insert (user : User Oid)
  | delete (id : Oid)

def setOne (id : Oid) (f : User Oid → User Oid) (users : List (User Oid)) : List (User Oid) :=
  updateOne (fun user => decide (user.objectId = id)) f users

def State.count (s : State Oid) (rest : List (User Oid)) (tally : Tally) : State Oid :=
  { s with remaining := rest, tally := tally }

/-- The script at the first of the users that remain. -/
def State.handle (s : State Oid) (user : User Oid) (rest : List (User Oid)) (now : Nat) :
    Outcome → State Oid
  | .raised => { s with raised := true }
  | .skipped => s.count rest { s.tally with skip := s.tally.skip + 1 }
  | .failed => s.count rest { s.tally with err := s.tally.err + 1 }
  | .migrated newEnc =>
    let s := if s.dryRun then s
      else { s with users := setOne user.objectId (.migrate newEnc now) s.users }
    s.count rest { s.tally with ok := s.tally.ok + 1 }

/-- Without a key of KMS the script exits before its query. A run of the script begins when the
one before it is over. An `_id` is not used again. -/
def step (s : State Oid) : Label env Oid → Option (State Oid)
  | .find dryRun target =>
    if env.settings.portalKmsKeyId ≠ "" ∧ (s.remaining = [] ∨ s.raised = true) then
      some { s with
        dryRun, remaining := s.users.filter (selected target), raised := false, tally := {} }
    else none
  | .next generated nonce now => match s.remaining with
    | [] => none
    | user :: rest =>
      if s.raised then none else some (s.handle user rest now (outcome env generated nonce user))
  | .enroll id secret generated nonce nonce' =>
    (encryptMfaSecret env.aes env.settings (generated.map (·.1)) nonce nonce' secret).map
        fun stored =>
      { s with
        users := setOne id
          (fun user => { user with mfaSecretEnc := .text stored, mfaEnabled := false }) s.users
        enrolled := Function.update s.enrolled id (some secret) }
  | .setEnabled id enabled =>
    some { s with users := setOne id (fun user => { user with mfaEnabled := enabled }) s.users }
  | .insert user =>
    if user.objectId ∉ s.users.map (·.objectId) ∧ s.enrolled user.objectId = none then
      some { s with users := insertOne user s.users }
    else none
  | .delete id =>
    some { s with users := deleteOne (fun user => decide (user.objectId = id)) s.users }

/-- What the portal reads of the secret, where `portal_mfa_verify` can. -/
def secretOf (user : User Oid) : Option String :=
  match user.mfaSecretEnc with
  | .text enc => (decryptMfaSecret env.aes env.settings env.kmsDecryptDek enc).toOption
  | .missing | .null => none

/-- What the script reads of it. -/
def legacySecret (user : User Oid) : Option String :=
  match user.mfaSecretEnc with
  | .missing => decryptMfaSecretEnvkey env.aes env.settings ""
  | .null => none
  | .text enc => decryptMfaSecretEnvkey env.aes env.settings enc

/-- Every authenticator works: the portal reads the secret that it was set up with. -/
def Readable (s : State Oid) : Prop :=
  ∀ user ∈ s.users, ∀ secret, s.enrolled user.objectId = some secret →
    secretOf env user = some secret

/-- Where the script writes, the user has not enrolled with another secret since the find. -/
def Current (s : State Oid) : Label env Oid → Prop
  | .next generated nonce _ => ∀ user rest newEnc, s.remaining = user :: rest → s.dryRun = false →
      outcome env generated nonce user = .migrated newEnc →
        ∀ held ∈ s.users, held.objectId = user.objectId →
        ∀ secret, s.enrolled user.objectId = some secret → legacySecret env user = some secret
  | .find .. | .enroll .. | .setEnabled .. | .insert _ | .delete _ => True

variable {env} {s t : State Oid} {l : Label env Oid} {ls : List (Label env Oid)}
    {user held : User Oid}
variable {rest docs : List (User Oid)} {id : Oid} {f : User Oid → User Oid}
    {generated : Option (DataKey env)}
variable {nonce nonce' : Nonce} {enc newEnc secret stored : String} {time : Nat}

/-! ### One secret -/

theorem isKms_iff : isKms enc = true ↔ kmsPrefix <+: enc.toList := decide_eq_true_iff

theorem generated_keys : ∀ dkp ∈ generated.map (·.1),
    env.kmsDecryptDek dkp.encryptedDek = some dkp.plaintextDek := by
  intro dkp given
  obtain ⟨key, -, rfl⟩ := Option.map_eq_some_iff.mp given
  exact key.2

theorem reencrypt_migrated (done : reencrypt env generated nonce enc = .migrated newEnc) :
    isKms newEnc = true ∧ ∃ secret, isKms enc = false ∧
      decryptMfaSecretEnvkey env.aes env.settings enc = some secret ∧
      decryptMfaSecret env.aes env.settings env.kmsDecryptDek newEnc = .ok secret := by
  unfold reencrypt at done
  split_ifs at done with kms
  split at done
  · cases done
  · rename_i secret opened
    split at done
    · cases done
    · rename_i made sealed_
      cases done
      obtain ⟨marked, read⟩ := kms_round_trip generated_keys sealed_
      refine ⟨isKms_iff.mpr marked, secret, by simpa using kms, opened, ?_⟩
      rw [decryptMfaSecret, if_pos marked, read]

omit [DecidableEq Oid] in
/-- A user that is migrated is read as before, by the script and by the portal. -/
theorem outcome_migrated (time : Nat) (done : outcome env generated nonce user = .migrated newEnc) :
    isKms newEnc = true ∧ ∃ secret, legacySecret env user = some secret ∧
      secretOf env (user.migrate newEnc time) = some secret ∧
      ∀ enc, user.mfaSecretEnc = .text enc → isKms enc = false ∧
        secretOf env user = some secret := by
  cases field : user.mfaSecretEnc with
  | missing =>
    simp only [outcome, field] at done
    obtain ⟨marked, secret, -, opened, read⟩ := reencrypt_migrated done
    refine ⟨marked, secret, by simpa only [legacySecret, field] using opened, ?_, by simp⟩
    simp only [secretOf, User.migrate, read, Except.toOption]
  | null =>
    simp only [outcome, field] at done
    cases done
  | text enc =>
    simp only [outcome, field] at done
    obtain ⟨marked, secret, legacy, opened, read⟩ := reencrypt_migrated done
    refine ⟨marked, secret, by simpa only [legacySecret, field] using opened, ?_, ?_⟩
    · simp only [secretOf, User.migrate, read, Except.toOption]
    · rintro enc' ⟨⟩
      refine ⟨legacy, ?_⟩
      have unmarked : ¬kmsPrefix <+: enc.toList := fun marked => by
        simp [isKms_iff.mpr marked] at legacy
      simp only [secretOf, field, decryptMfaSecret, if_neg unmarked, opened, Except.toOption]

/-! ### The users -/

/-- No two users share an `_id`. -/
def Distinct (docs : List (User Oid)) : Prop := (docs.map (·.objectId)).Nodup

omit [DecidableEq Oid] in
theorem Distinct.eq (distinct : Distinct docs) (mem : user ∈ docs) (mem' : held ∈ docs)
    (same : held.objectId = user.objectId) : held = user :=
  List.inj_on_of_nodup_map distinct mem' mem same

theorem setOne_eq (distinct : Distinct docs) :
    setOne id f docs = docs.map fun user => if user.objectId = id then f user else user := by
  have single : ∀ a ∈ docs, ∀ b ∈ docs, decide (a.objectId = id) = true →
      decide (b.objectId = id) = true → a = b := by
    intro a memA b memB isA isB
    exact distinct.eq memB memA ((of_decide_eq_true isA).trans (of_decide_eq_true isB).symm)
  rw [setOne, updateOne_eq_updateMany single (List.Nodup.of_map _ distinct), updateMany]
  simp only [decide_eq_true_eq]

theorem setOne_distinct (distinct : Distinct docs)
    (keeps : ∀ user, (f user).objectId = user.objectId) :
    Distinct (setOne id f docs) := by
  have same : (setOne id f docs).map (·.objectId) = docs.map (·.objectId) := by
    rw [setOne_eq distinct, List.map_map]
    refine List.map_congr_left fun user _ => ?_
    simp only [Function.comp]
    split_ifs <;> simp [keeps]
  rw [Distinct, same]
  exact distinct

theorem mem_setOne (distinct : Distinct docs) :
    held ∈ setOne id f docs ↔ ∃ user ∈ docs, held = if user.objectId =
      id then f user else user := by
  rw [setOne_eq distinct, List.mem_map]
  simp only [eq_comm]

structure Valid (env : Env) (s : State Oid) : Prop where
  distinct : Distinct s.users
  readable : Readable env s

/-- A write that leaves what the portal reads. -/
theorem Valid.setOne (valid : Valid env s) (keeps : ∀ user, (f user).objectId = user.objectId)
    (reads : ∀ held ∈ s.users, held.objectId = id → ∀ secret, s.enrolled id = some secret →
      secretOf env (f held) = some secret) : Valid env { s with users := setOne id f s.users } := by
  refine ⟨setOne_distinct valid.distinct keeps, fun user mem secret shown => ?_⟩
  obtain ⟨held, inside, rfl⟩ := (mem_setOne valid.distinct).mp mem
  split_ifs at shown ⊢ with here
  · refine reads held inside here secret ?_
    rw [← here]
    simpa [keeps] using shown
  · exact valid.readable held inside secret shown

omit [DecidableEq Oid] in
theorem Valid.congr (valid : Valid env s) (users : t.users = s.users)
    (enrolled : t.enrolled = s.enrolled) :
    Valid env t := by
  obtain ⟨distinct, readable⟩ := valid
  refine ⟨users ▸ distinct, fun user mem secret shown => ?_⟩
  rw [users] at mem
  rw [enrolled] at shown
  exact readable user mem secret shown

/-- What `next` does to the users. -/
theorem handle_users (time : Nat) (result : Outcome) :
    (s.handle user rest time result).enrolled = s.enrolled ∧
    ((s.handle user rest time result).users = s.users ∨ ∃ newEnc, result = .migrated newEnc ∧
      s.dryRun = false ∧ (s.handle user rest time result).users =
        setOne user.objectId (.migrate newEnc time) s.users) := by
  cases result with
  | migrated newEnc =>
    cases dry : s.dryRun with
    | true => simp [State.handle, State.count, dry]
    | false => simp [State.handle, State.count, dry]
  | raised => exact ⟨rfl, .inl rfl⟩
  | skipped => exact ⟨rfl, .inl rfl⟩
  | failed => exact ⟨rfl, .inl rfl⟩

omit [DecidableEq Oid] in
theorem enroll_reads
    (made : encryptMfaSecret env.aes env.settings (generated.map (·.1)) nonce nonce' secret =
      some stored) :
    secretOf env { user with mfaSecretEnc := .text stored, mfaEnabled := false } = some secret := by
  have read := (mfa_secret_round_trip generated_keys).1 stored made
  simp only [secretOf, read, Except.toOption]

theorem step_valid (valid : Valid env s) (stepped : step env s l = some t)
    (current : Current env s l) : Valid env t := by
  cases l with
  | find dryRun target =>
    obtain ⟨-, now⟩ := Option.ite_none_right_eq_some.mp stepped
    exact Option.some.inj now ▸ valid.congr rfl rfl
  | next generated nonce time =>
    simp only [step] at stepped
    split at stepped
    · cases stepped
    · rename_i user rest first
      obtain ⟨-, now⟩ := Option.ite_none_left_eq_some.mp stepped
      cases Option.some.inj now
      obtain ⟨enrolled, users | ⟨newEnc, done, writes, users⟩⟩ :=
        @handle_users _ _ s user rest time (outcome env generated nonce user)
      · exact valid.congr users enrolled
      · obtain ⟨-, secret, legacy, read, -⟩ := outcome_migrated time done
        let change : User Oid → User Oid := .migrate newEnc time
        refine (valid.setOne (f := change) (fun _ => rfl) fun held mem same shown enrolled =>
          ?_).congr users enrolled
        have old := current user rest newEnc first writes done held mem same shown enrolled
        rw [legacy] at old
        cases old
        exact read
  | enroll id secret generated nonce nonce' =>
    obtain ⟨stored, made, rfl⟩ := Option.map_eq_some_iff.mp stepped
    refine ⟨setOne_distinct valid.distinct fun _ => rfl, fun user mem shown enrolled => ?_⟩
    obtain ⟨held, inside, rfl⟩ := (mem_setOne valid.distinct).mp mem
    split_ifs at enrolled ⊢ with here
    · have same : secret = shown := by simpa [here] using enrolled
      exact same ▸ enroll_reads made
    · refine valid.readable held inside shown ?_
      simpa [here] using enrolled
  | setEnabled id enabled =>
    cases Option.some.inj stepped
    exact valid.setOne (fun _ => rfl) fun held mem same secret shown =>
      valid.readable held mem secret (same ▸ shown)
  | insert user =>
    obtain ⟨⟨new, fresh⟩, now⟩ := Option.ite_none_right_eq_some.mp stepped
    cases Option.some.inj now
    refine ⟨?_, fun held mem secret shown => ?_⟩
    · simp only [Distinct, insertOne, List.map_append, List.map_cons, List.map_nil]
      refine List.nodup_append.mpr ⟨valid.distinct, List.nodup_singleton _,
        fun a older b last same => ?_⟩
      rw [List.mem_singleton.mp last] at same
      exact new (same ▸ older)
    · rcases List.mem_append.mp mem with older | last
      · exact valid.readable held older secret shown
      · obtain rfl := List.mem_singleton.mp last
        simp [fresh] at shown
  | delete id =>
    cases Option.some.inj stepped
    have sub : (deleteOne (fun user => decide (user.objectId = id)) s.users).Sublist s.users :=
      List.eraseP_sublist
    exact ⟨valid.distinct.sublist (sub.map _), fun held mem => valid.readable held (sub.subset mem)⟩

/-- A write that would leave the secret of an older enrolment is seen at once. -/
theorem current_of_readable (valid : Valid env s) (stepped : step env s l = some t)
    (after : Readable env t) : Current env s l := by
  cases l with
  | next generated nonce time =>
    intro user rest newEnc first writes done held mem same secret shown
    simp only [step, first] at stepped
    obtain ⟨-, now⟩ := Option.ite_none_left_eq_some.mp stepped
    cases Option.some.inj now
    obtain ⟨-, secret', legacy, read, -⟩ := outcome_migrated time done
    have here : held.migrate newEnc time ∈
        (s.handle user rest time (outcome env generated nonce user)).users := by
      rw [done, State.handle, writes]
      simp only [Bool.false_eq_true, if_false, State.count]
      exact (mem_setOne valid.distinct).mpr ⟨held, mem, by rw [if_pos same]⟩
    have enrolled : (s.handle user rest time (outcome env generated nonce user)).enrolled
        held.objectId = some secret := by
      rw [(handle_users time _).1, same, shown]
    have now : secretOf env (held.migrate newEnc time) = some secret := after _ here secret enrolled
    rw [legacy, ← now, ← read]
    rfl
  | find dryRun target => trivial
  | enroll id secret generated nonce nonce' => trivial
  | setEnabled id enabled => trivial
  | insert user => trivial
  | delete id => trivial

/-- However the script, enrolments and changes of the accounts interleave: every authenticator goes
on to work just when no user whom the script writes has enrolled anew since they were found. -/
theorem migration_safe_iff (valid : Valid env s) (run : exec (step env) s ls = some t) :
    (∀ past u, past <+: ls → exec (step env) s past = some u → Readable env u) ↔
      Along (step env) (Current env) s ls :=
  reached_iff_along (Q := fun _ _ => True) (Valid env)
    (fun before _ stepped after => current_of_readable before stepped after)
    (fun before _ stepped current => step_valid before stepped current) Valid.readable valid
      (along_true s) run

def kmsEnv : Env := ⟨oneBlock, ⟨"alias/portal", ""⟩, fun _ => some dataKey.plaintextDek⟩

def kmsKey : DataKey kmsEnv := ⟨dataKey, rfl⟩

/-- The base64 of `JBSWY3DP`. -/
def operator : User Nat := ⟨0, "operator", true, .text "SkJTV1kzRFA=", none⟩

def portal : State Nat := { users := [operator], enrolled := fun _ => none }

/-- The operator enrols anew between the find and the update. -/
def overtaken : List (Label kmsEnv Nat) :=
  [.find false none, .enroll 0 "KRSXG5A=" (some kmsKey) zeros zeros, .next (some kmsKey) zeros 0]

theorem overtaken_iff : ∃ t, exec (step kmsEnv) portal overtaken = some t ∧
    ((∀ past u, past <+: overtaken → exec (step kmsEnv) portal past = some u → Readable kmsEnv u) ↔
      Along (step kmsEnv) (Current kmsEnv) portal overtaken) := by
  have valid : Valid kmsEnv portal := by
    refine ⟨List.nodup_singleton _, fun user _ secret shown => ?_⟩
    cases shown
  have run : ∃ t, exec (step kmsEnv) portal overtaken = some t := ⟨_, rfl⟩
  obtain ⟨t, run⟩ := run
  exact ⟨t, run, migration_safe_iff valid run⟩

/-! ### The counts -/

def isFind : Label env Oid → Bool
  | .find .. => true
  | .next .. | .enroll .. | .setEnabled .. | .insert _ | .delete _ => false

omit [DecidableEq Oid] in
theorem outcome_null (null : user.mfaSecretEnc = .null) :
    outcome env generated nonce user = .raised := by
  simp only [outcome, null]

omit [DecidableEq Oid] in
/-- The query leaves the branch for secrets of KMS without work. -/
theorem outcome_selected {target : Option String} (found : selected target user = true)
    (text : user.mfaSecretEnc ≠ .null) :
    outcome env generated nonce user = .failed ∨
      ∃ newEnc, outcome env generated nonce user = .migrated newEnc := by
  cases field : user.mfaSecretEnc with
  | missing => simp [selected, field] at found
  | null => exact absurd field text
  | text enc =>
    have legacy : isKms enc = false := by
      simp only [selected, field, Bool.and_eq_true, Bool.not_eq_true'] at found
      exact found.1.2
    simp only [outcome, field, reencrypt, legacy, Bool.false_eq_true, if_false]
    split
    · exact .inl rfl
    · split
      · exact .inl rfl
      · exact .inr ⟨_, rfl⟩

theorem handle_migrated (s : State Oid) (user : User Oid) (rest : List (User Oid)) (time : Nat)
    (newEnc : String) : (s.handle user rest time (.migrated newEnc)).remaining = rest ∧
    (s.handle user rest time (.migrated newEnc)).tally = { s.tally with ok := s.tally.ok + 1 } ∧
      (s.handle user rest time (.migrated newEnc)).raised = s.raised := by
  cases dry : s.dryRun <;> simp [State.handle, State.count, dry]

/-- How far the script has come with the users that it found. -/
structure Accounted (found : List (User Oid)) (s : State Oid) (handled : List (User Oid)) :
    Prop where
  order : found = handled ++ s.remaining
  counts : s.tally.ok + s.tally.err = handled.length
  skip : s.tally.skip = 0
  texts : ∀ user ∈ handled, user.mfaSecretEnc ≠ .null
  raised : s.raised = true → ∃ user rest, s.remaining = user :: rest ∧ user.mfaSecretEnc = .null

theorem Accounted.step {found handled : List (User Oid)} {target : Option String}
    (queried : ∀ user ∈ found, selected target user = true) (before : Accounted found s handled)
    (other : isFind l = false) (stepped : step env s l = some t) :
    ∃ handled, Accounted found t handled := by
  obtain ⟨order, counts, skip, texts, raised⟩ := before
  cases l with
  | find dryRun target => cases other
  | next generated nonce time =>
    simp only [MfaMigration.step] at stepped
    split at stepped
    · cases stepped
    · rename_i user rest first
      obtain ⟨going, now⟩ := Option.ite_none_left_eq_some.mp stepped
      cases Option.some.inj now
      have inside : user ∈ found := by
        rw [order, first]
        exact List.mem_append_right _ List.mem_cons_self
      by_cases null : user.mfaSecretEnc = .null
      · rw [outcome_null null]
        exact ⟨handled, order, counts, skip, texts, fun _ => ⟨user, rest, first, null⟩⟩
      · have texts' : ∀ user' ∈ handled ++ [user], user'.mfaSecretEnc ≠ .null := by
          intro user' mem
          rcases List.mem_append.mp mem with older | last
          · exact texts user' older
          · exact List.mem_singleton.mp last ▸ null
        have order' : found = (handled ++ [user]) ++ rest := by
          rw [order, first, List.append_assoc, List.singleton_append]
        rcases @outcome_selected _ _ _ generated nonce _ (queried user inside) null with
          failed | ⟨newEnc, migrated⟩
        · rw [failed]
          refine ⟨handled ++ [user], order', ?_, skip, texts', fun now => absurd now going⟩
          simp only [State.handle, State.count, List.length_append, List.length_singleton]
          omega
        · rw [migrated]
          obtain ⟨remaining, tally, still⟩ := handle_migrated s user rest time newEnc
          have never : (s.handle user rest time (.migrated newEnc)).raised ≠ true := still ▸ going
          refine ⟨handled ++ [user], remaining ▸ order', ?_, tally ▸ skip, texts',
            fun now => absurd now never⟩
          simp only [tally, List.length_append, List.length_singleton]
          omega
  | enroll id secret generated nonce nonce' =>
    obtain ⟨stored, -, rfl⟩ := Option.map_eq_some_iff.mp stepped
    exact ⟨handled, order, counts, skip, texts, raised⟩
  | setEnabled id enabled =>
    cases Option.some.inj stepped
    exact ⟨handled, order, counts, skip, texts, raised⟩
  | insert user =>
    obtain ⟨-, now⟩ := Option.ite_none_right_eq_some.mp stepped
    cases Option.some.inj now
    exact ⟨handled, order, counts, skip, texts, raised⟩
  | delete id =>
    cases Option.some.inj stepped
    exact ⟨handled, order, counts, skip, texts, raised⟩

/-- Whatever happens to the accounts meanwhile: the users that were found are handled in their
order, each is counted as migrated or as failed, none is skipped, and the first whose secret is
null ends the script, whoever stands behind. -/
theorem migration_accounted {dryRun : Bool} {target : Option String}
    (run : exec (step env) s (.find dryRun target :: ls) = some t)
    (one : ∀ l ∈ ls, isFind l = false) :
    ∃ handled, Accounted (s.users.filter (selected target)) t handled := by
  obtain ⟨u, first, rest⟩ := exec_cons.mp run
  obtain ⟨-, now⟩ := Option.ite_none_right_eq_some.mp first
  let counted (u : State Oid) : Prop :=
    ∃ handled, Accounted (s.users.filter (selected target)) u handled
  have initial : counted u := by
    rw [← Option.some.inj now]
    exact ⟨[], rfl, rfl, rfl, by simp, by simp⟩
  have along : Along (step env) (fun _ l => isFind l = false) u ls :=
    along_of_forall (fun l mem _ => one l mem) u
  have carried : ∀ {u l v}, counted u → isFind l = false → step env u l = some v → counted v := by
    rintro u l v ⟨handled, before⟩ other stepped
    exact before.step (fun user mem => List.of_mem_filter mem) other stepped
  have done : counted t := exec_invariant carried along rest initial
  exact done

/-- An account that has not enrolled yet, as `seed_portal_admin.py` makes it. -/
def seeded : User Nat := ⟨1, "admin", true, .null, none⟩

def seededPortal : State Nat := { users := [seeded, operator], enrolled := fun _ => none }

/-- The operator stands behind the account that ends the script. -/
theorem seeded_accounted : ∃ t,
    exec (step kmsEnv) seededPortal [.find false none, .next (some kmsKey) zeros 0] = some t ∧
    ∃ handled, Accounted (seededPortal.users.filter (selected none)) t handled := by
  have run : ∃ t, exec (step kmsEnv) seededPortal [.find false none, .next (some kmsKey) zeros 0] =
    some t := ⟨_, rfl⟩
  obtain ⟨t, run⟩ := run
  exact ⟨t, run, migration_accounted run (by simp [isFind])⟩

/-! ### A run of the script alone -/

/-- A user as the script leaves it: untouched, or moved to the format of KMS with the secret that
the portal has read before. -/
def Kept (env : Env) (target : Option String) (user user' : User Oid) : Prop :=
  user' = user ∨ selected target user = true ∧ ∃ newEnc time secret, isKms newEnc = true ∧
    user' = user.migrate newEnc time ∧ secretOf env user = some secret ∧
      secretOf env user' = some secret

omit [DecidableEq Oid] in
theorem Kept.objectId {user user' : User Oid} {target : Option String}
    (kept : Kept env target user user') :
    user'.objectId = user.objectId := by
  rcases kept with rfl | ⟨-, newEnc, time, secret, -, rfl, -⟩
  · rfl
  · rfl

/-- The users that remain are as they were found, and those that are migrated are no longer
selected. -/
structure Alone (env : Env) (target : Option String) (before : List (User Oid)) (s : State Oid) :
    Prop where
  dryRun : s.dryRun = false
  distinct : Distinct s.users
  remaining : ∀ user ∈ s.remaining, user ∈ before ∧ user ∈ s.users ∧ selected target user = true
  once : Distinct s.remaining
  kept : List.Forall₂ (Kept env target) before s.users
  count : (s.users.filter (selected target)).length + s.tally.ok =
    (before.filter (selected target)).length

theorem Alone.migrate {before : List (User Oid)} {target : Option String}
    (alone : Alone env target before s) (unique : Distinct before)
    (first : s.remaining = user :: rest)
    (done : outcome env generated nonce user = .migrated newEnc) :
    Alone env target before (s.handle user rest time (.migrated newEnc)) := by
  obtain ⟨dry, distinct, remaining, once, kept, count⟩ := alone
  obtain ⟨inBefore, inside, found⟩ := remaining user (first ▸ List.mem_cons_self)
  obtain ⟨marked, secret, -, read, text⟩ := outcome_migrated time done
  let change : User Oid → User Oid := .migrate newEnc time
  obtain ⟨remaining', tally, -⟩ := handle_migrated s user rest time newEnc
  have users : (s.handle user rest time (.migrated newEnc)).users =
      setOne user.objectId change s.users := by
    simp [State.handle, State.count, dry, change]
  have others : ∀ held ∈ rest, held.objectId ≠ user.objectId := by
    rw [first, Distinct, List.map_cons, List.nodup_cons] at once
    exact fun held mem same => once.1 (same ▸ List.mem_map_of_mem mem)
  have unselected : selected target (change user) = false := by
    simp [selected, change, User.migrate, marked]
  refine ⟨?_, ?_, fun held mem => ?_, ?_, ?_, ?_⟩
  · simp [State.handle, State.count, dry]
  · exact users ▸ setOne_distinct distinct fun _ => rfl
  · rw [remaining'] at mem
    obtain ⟨older, here, chosen⟩ := remaining held (first ▸ List.mem_cons_of_mem _ mem)
    exact ⟨older, users ▸ (mem_setOne distinct).mpr
      ⟨held, here, (if_neg (others held mem)).symm⟩, chosen⟩
  · rw [remaining']
    rw [first] at once
    exact once.sublist ((List.sublist_cons_self _ _).map _)
  · have moved : Kept env target user (change user) := by
      cases field : user.mfaSecretEnc with
      | text enc => exact .inr ⟨found, newEnc, time, secret, marked, rfl, (text enc field).2, read⟩
      | missing => simp [selected, field] at found
      | null => simp [outcome, field] at done
    rw [users, setOne_eq distinct]
    obtain ⟨length, pairs⟩ := List.forall₂_iff_zip.mp kept
    refine List.forall₂_map_right_iff.mpr (List.forall₂_iff_zip.mpr ⟨length, fun {a b} mem => ?_⟩)
    obtain ⟨memA, memB⟩ := List.of_mem_zip mem
    have pair : Kept env target a b := pairs mem
    split_ifs with here
    · obtain rfl := distinct.eq inside memB here
      obtain rfl : a = b := unique.eq inBefore memA ((pair.objectId).symm.trans here)
      exact moved
    · exact pair
  · have only : findOne (fun held => decide (held.objectId = user.objectId)) s.users = some user :=
      findOne_unique inside (by simp) fun held mem same =>
        distinct.eq inside mem (of_decide_eq_true same)
    have fewer := length_filter_updateOne_out only found unselected
    rw [users, tally, setOne]
    simp only
    omega

theorem Alone.step {before : List (User Oid)} {target : Option String}
    (alone : Alone env target before s) (unique : Distinct before)
    (stepped : step env s (.next generated nonce time) = some t) :
    Alone env target before t := by
  simp only [MfaMigration.step] at stepped
  split at stepped
  · cases stepped
  · rename_i user rest first
    obtain ⟨-, now⟩ := Option.ite_none_left_eq_some.mp stepped
    cases Option.some.inj now
    obtain ⟨-, -, found⟩ := alone.remaining user (first ▸ List.mem_cons_self)
    by_cases null : user.mfaSecretEnc = .null
    · rw [outcome_null null]
      exact ⟨alone.dryRun, alone.distinct, alone.remaining, alone.once, alone.kept, alone.count⟩
    · rcases @outcome_selected _ _ _ generated nonce _ found null with failed | ⟨newEnc, migrated⟩
      · rw [failed]
        have later : rest.Sublist s.remaining := first ▸ List.sublist_cons_self user rest
        exact ⟨alone.dryRun, alone.distinct, fun held mem =>
          alone.remaining held (later.subset mem),
          alone.once.sublist (later.map _), alone.kept, alone.count⟩
      · rw [migrated]
        exact alone.migrate unique first migrated

theorem alone_found {target : Option String} (unique : Distinct s.users)
    (stepped : step env s (.find false target) = some t) : Alone env target s.users t := by
  obtain ⟨-, now⟩ := Option.ite_none_right_eq_some.mp stepped
  rw [← Option.some.inj now]
  have found : (s.users.filter (selected target)).Sublist s.users := List.filter_sublist
  refine ⟨rfl, unique, fun user mem => ?_, unique.sublist (found.map _), ?_, by simp⟩
  · have inside := List.mem_of_mem_filter mem
    exact ⟨inside, inside, List.of_mem_filter mem⟩
  · exact List.forall₂_same.mpr fun user _ => .inl rfl

/-- A dry run writes nothing, whatever it counts. -/
theorem next_dry (dry : s.dryRun = true)
    (stepped : step env s (.next generated nonce time) = some t) :
    t.dryRun = true ∧ t.users = s.users := by
  simp only [step] at stepped
  split at stepped
  · cases stepped
  · obtain ⟨-, now⟩ := Option.ite_none_left_eq_some.mp stepped
    rw [← Option.some.inj now]
    cases outcome env generated nonce _ <;> simp [State.handle, State.count, dry]

/-- Undisturbed, the script changes no user but those it has found, and of those only the format:
the portal reads of each the secret that it has read before. What a second run would find is
what this one has found, less those that it counts as migrated; a dry run changes nothing. -/
theorem migration_alone {dryRun : Bool} {target : Option String} (unique : Distinct s.users)
    (run : exec (step env) s (.find dryRun target :: ls) = some t)
    (alone : ∀ l ∈ ls, ∃ generated nonce time, l = .next generated nonce time) :
    (dryRun = true → t.users = s.users) ∧ (dryRun = false →
      List.Forall₂ (Kept env target) s.users t.users ∧
      (t.users.filter (selected target)).length + t.tally.ok =
        (s.users.filter (selected target)).length) := by
  obtain ⟨u, first, rest⟩ := exec_cons.mp run
  have along : Along (step env) (fun _ l => ∃ generated nonce time,
      l = .next generated nonce time) u ls :=
    along_of_forall (fun l mem _ => alone l mem) u
  constructor
  · rintro rfl
    let dry (u : State Oid) : Prop := u.dryRun = true ∧ u.users = s.users
    have carried : ∀ {u l v}, dry u → (∃ generated nonce time, l = .next generated nonce time) →
        step env u l = some v → dry v := by
      rintro u l v ⟨isDry, same⟩ ⟨generated, nonce, time, rfl⟩ stepped
      obtain ⟨still, kept⟩ := next_dry isDry stepped
      exact ⟨still, kept.trans same⟩
    have initial : dry u := by
      obtain ⟨-, now⟩ := Option.ite_none_right_eq_some.mp first
      rw [← Option.some.inj now]
      exact ⟨rfl, rfl⟩
    exact (exec_invariant carried along rest initial).2
  · rintro rfl
    have carried : ∀ {u l v}, Alone env target s.users u →
        (∃ generated nonce time, l = .next generated nonce time) →
        step env u l = some v → Alone env target s.users v := by
      rintro u l v before ⟨generated, nonce, time, rfl⟩ stepped
      exact before.step unique stepped
    have done := exec_invariant carried along rest (alone_found unique first)
    exact ⟨done.kept, done.count⟩

theorem operator_migrated : ∃ t, exec (step kmsEnv) portal [.find false none,
    .next (some kmsKey) zeros 0] = some t ∧
    (false = true → t.users = portal.users) ∧
      (false = false → List.Forall₂ (Kept kmsEnv none) portal.users t.users ∧
      (t.users.filter (selected none)).length + t.tally.ok =
        (portal.users.filter (selected none)).length) := by
  have run : ∃ t, exec (step kmsEnv) portal [.find false none, .next (some kmsKey) zeros 0] =
    some t := ⟨_, rfl⟩
  obtain ⟨t, run⟩ := run
  refine ⟨t, run, migration_alone (List.nodup_singleton _) run fun l mem => ?_⟩
  exact ⟨some kmsKey, zeros, 0, List.mem_singleton.mp mem⟩

end AgentOE.MfaMigration
