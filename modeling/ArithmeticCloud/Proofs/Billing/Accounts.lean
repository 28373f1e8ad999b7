import ArithmeticCloud.Billing.Accounts

/-!
Contract: how each operation on the accounts shows in what can be asked of one
account.

Owns: being online and the balance of a name after every operation, and the
accounts at the start.

Does not own: notifications.
-/

namespace ArithmeticCloud.Billing

namespace Account

@[simp] theorem name_fire (account : Account) : account.fire.name = account.name := by
  unfold fire
  split <;> rfl

@[simp] theorem password_fire (account : Account) : account.fire.password = account.password := by
  unfold fire
  split <;> rfl

@[simp] theorem credits_fire (account : Account) : account.fire.credits = account.credits := by
  unfold fire
  split <;> rfl

@[simp] theorem online_fire (account : Account) : account.fire.online = account.online := by
  unfold fire
  split <;> rfl

end Account

namespace Accounts

/-- Whether there is an account of the name and its user is logged in. -/
def isOnline (accounts : Accounts) (name : String) : Bool :=
  (accounts.find? name).any Account.online

/-! ## Looking up a name -/

theorem name_of_find? {accounts : Accounts} {name : String} {account : Account}
    (found : accounts.find? name = some account) : account.name = name := by
  simpa using List.find?_some found

/-- A change that keeps names shows at the changed name only. -/
theorem find?_modify (accounts : Accounts) (name other : String) (change : Account → Account)
    (keeps : ∀ account, account.name = name → (change account).name = name) :
    (accounts.modify name change).find? other =
      if other = name then (accounts.find? name).map change else accounts.find? other := by
  rcases accounts with ⟨entries⟩
  simp only [modify, find?]
  induction entries with
  | nil => split <;> rfl
  | cons entry others inductionHypothesis =>
      rw [List.map_cons, List.find?_cons, List.find?_cons, List.find?_cons, inductionHypothesis]
      by_cases changed : entry.name = name
      · rw [if_pos changed, keeps entry changed]
        by_cases same : other = name
        · simp [same, changed]
        · have different : (name == other) = false := by simpa using Ne.symm same
          simp [same, changed, different]
      · rw [if_neg changed]
        have different : (entry.name == name) = false := by simpa using changed
        by_cases same : other = name
        · simp [same, different]
        · simp [same]

/-! ## Logging in and out -/

theorem find?_setOnline (accounts : Accounts) (name other : String) (online : Bool) :
    (accounts.setOnline name online).find? other =
      if other = name then (accounts.find? name).map ({ · with online := online })
      else accounts.find? other :=
  find?_modify accounts name other _ fun _ same => same

theorem isOnline_setOnline (accounts : Accounts) (name other : String) (online : Bool) :
    (accounts.setOnline name online).isOnline other =
      if other = name then (accounts.find? name).isSome && online
      else accounts.isOnline other := by
  unfold isOnline
  rw [find?_setOnline]
  split
  · cases accounts.find? name <;> simp
  · rfl

/-- What does not depend on being online stays. -/
theorem map_find?_setOnline {α : Type} (accounts : Accounts) (name other : String) (online : Bool)
    {view : Account → α} (keeps : ∀ account : Account, view { account with online := online } =
      view account) :
    ((accounts.setOnline name online).find? other).map view = (accounts.find? other).map view := by
  rw [find?_setOnline]
  split
  · next same =>
      subst other
      rw [Option.map_map]
      exact congrFun (congrArg Option.map (funext keeps)) _
  · rfl

@[simp] theorem credits?_setOnline (accounts : Accounts) (name other : String) (online : Bool) :
    (accounts.setOnline name online).credits? other = accounts.credits? other :=
  map_find?_setOnline accounts name other online fun _ => rfl

/-- A login either puts an offline user online or changes nothing. -/
theorem login_cases (accounts : Accounts) (name password : String) :
    ((accounts.login name password).1 = .loggedIn ∧ accounts.isOnline name = false ∧
        (accounts.find? name).isSome = true ∧
        (accounts.login name password).2 = accounts.setOnline name true) ∨
      ((accounts.login name password).1 ≠ .loggedIn ∧
        (accounts.login name password).2 = accounts) := by
  unfold login isOnline
  cases found : accounts.find? name with
  | none => right; simp
  | some account =>
      dsimp only
      by_cases right : account.password = password
      · rw [if_pos right]
        by_cases online : account.online = true
        · rw [if_pos online]
          right; simp
        · rw [if_neg online]
          left; simpa using online
      · rw [if_neg right]
        right; simp

theorem login_eq_alreadyLoggedIn_iff (accounts : Accounts) (name password : String) :
    (accounts.login name password).1 = .alreadyLoggedIn ↔
      ∃ account, accounts.find? name = some account ∧ account.password = password ∧
        account.online = true := by
  unfold login
  cases accounts.find? name with
  | none => simp
  | some account =>
      by_cases right : account.password = password
      · by_cases online : account.online = true <;> simp [right, online]
      · simp [right]

theorem login_eq_wrongCredentials_iff (accounts : Accounts) (name password : String) :
    (accounts.login name password).1 = .wrongCredentials ↔
      ∀ account, accounts.find? name = some account → account.password ≠ password := by
  unfold login
  cases accounts.find? name with
  | none => simp
  | some account =>
      by_cases right : account.password = password
      · by_cases online : account.online = true <;> simp [right, online]
      · simp [right]

@[simp] theorem credits?_login (accounts : Accounts) (name password other : String) :
    (accounts.login name password).2.credits? other = accounts.credits? other := by
  rcases accounts.login_cases name password with ⟨-, -, -, after⟩ | ⟨-, after⟩
  · rw [after, credits?_setOnline]
  · rw [after]

theorem isOnline_logout (accounts : Accounts) (name other : String) :
    (accounts.logout name).isOnline other =
      if other = name then false else accounts.isOnline other := by
  unfold logout
  rw [isOnline_setOnline, Bool.and_false]

@[simp] theorem credits?_logout (accounts : Accounts) (name other : String) :
    (accounts.logout name).credits? other = accounts.credits? other :=
  credits?_setOnline accounts name other false

/-! ## Changing a balance -/

theorem find?_adjust (accounts : Accounts) (name other : String) (delta : Int64) :
    (accounts.adjust name delta).2.2.find? other =
      if other = name then
        (accounts.find? name).map fun account =>
          ({ account with credits := saturatingSignedSum account.credits delta } : Account).fire
      else accounts.find? other := by
  unfold adjust
  cases found : accounts.find? name with
  | none =>
      by_cases same : other = name
      · simp [same, found]
      · simp [same]
  | some account =>
      dsimp only
      rw [find?_modify _ _ _ _ fun _ _ => by simpa using name_of_find? found, found]
      simp only [Option.map_some]

@[simp] theorem isOnline_adjust (accounts : Accounts) (name other : String) (delta : Int64) :
    (accounts.adjust name delta).2.2.isOnline other = accounts.isOnline other := by
  unfold isOnline
  rw [find?_adjust]
  split
  · next same =>
      subst other
      cases accounts.find? name <;> simp
  · rfl

theorem credits?_adjust (accounts : Accounts) (name other : String) (delta : Int64) :
    (accounts.adjust name delta).2.2.credits? other =
      if other = name then
        (accounts.credits? name).map (saturatingSignedSum · delta)
      else accounts.credits? other := by
  unfold credits?
  rw [find?_adjust]
  split
  · cases accounts.find? name <;> simp
  · rfl

/-! ## The start -/

theorem find?_insert (accounts : Accounts) (account : Account) (other : String) :
    (accounts.insert account).find? other =
      if other = account.name then some account else accounts.find? other := by
  rcases accounts with ⟨entries⟩
  simp only [insert, find?, List.find?_append]
  by_cases same : other = account.name
  · subst other
    have gone : (entries.filter (·.name != account.name)).find? (·.name == account.name) = none := by
      rw [List.find?_eq_none]
      intro entry member
      simpa using (List.mem_filter.mp member).2
    simp [gone]
  · have kept : (entries.filter (·.name != account.name)).find? (·.name == other) =
        entries.find? (·.name == other) := by
      rw [List.find?_filter]
      congr 1
      funext entry
      by_cases named : entry.name = other
      · simp [named, same]
      · simp [named]
    have different : (account.name == other) = false := by simpa using Ne.symm same
    simp [kept, same, different]

/-- An account at the start is that of one of the users, and every user has one. -/
theorem find?_foldl_insert (users : List User) (accounts : Accounts) (name : String) :
    (users.foldl (fun accounts user => accounts.insert (.ofUser user)) accounts).find? name =
      (((users.reverse.find? (·.name == name)).map Account.ofUser).or (accounts.find? name)) := by
  induction users generalizing accounts with
  | nil => simp
  | cons user others inductionHypothesis =>
      rw [List.foldl_cons, inductionHypothesis, find?_insert, List.reverse_cons,
        List.find?_append]
      have named : (Account.ofUser user).name = user.name := rfl
      rw [named]
      cases others.reverse.find? (·.name == name) with
      | some later => simp
      | none =>
          by_cases same : name = user.name
          · simp [same]
          · have different : (user.name == name) = false := by simpa using Ne.symm same
            simp [same, different]

theorem find?_ofUsers (users : List User) (name : String) :
    (ofUsers users).find? name =
      (users.reverse.find? (·.name == name)).map Account.ofUser := by
  unfold ofUsers
  rw [find?_foldl_insert]
  simp [find?]

theorem isOnline_ofUsers (users : List User) (name : String) :
    (ofUsers users).isOnline name = false := by
  unfold isOnline
  rw [find?_ofUsers]
  cases users.reverse.find? (·.name == name) <;> rfl

/-- A balance at the start is that of a user of the name. -/
theorem mem_of_credits?_ofUsers {users : List User} {name : String} {balance : Int64}
    (found : (ofUsers users).credits? name = some balance) :
    ∃ user ∈ users, user.name = name ∧ user.credits = balance := by
  unfold credits? at found
  rw [find?_ofUsers] at found
  cases source : users.reverse.find? (·.name == name) with
  | none => simp [source] at found
  | some user =>
      refine ⟨user, ?_, ?_, ?_⟩
      · simpa using List.mem_of_find?_eq_some source
      · simpa using List.find?_some source
      · simpa [source, Account.ofUser] using found

end Accounts

end ArithmeticCloud.Billing
