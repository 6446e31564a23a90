import RideHitch.Library.Machine
import RideHitch.Library.Requests
import RideHitch.RealmInteractor

/-! # LoginViewController

    Facebook accounts log in and out on one device.  The pair that is passed to
    Cognito is read from the first `User` in Realm.  Users are added by the
    responses of the Graph API and never removed: Section 2 says exactly which
    runs pass the pair of the account that is logged in. -/

namespace RideHitch

/-! ## Section 1: Model -/

/-- What the Graph API knows of an account besides its id. -/
structure GraphProfile where
  email : Option String
  first_name : Option String
  last_name : Option String
  deriving DecidableEq

/-- A pair passed to Cognito, and the account whose access token was current. -/
structure PassedPair where
  userName : String
  password : String
  account : Option String
  deriving DecidableEq

/-- A source settles once; it is set again with each call of `getDetails`. -/
structure AWSTaskCompletionSource where
  isCompleted : Bool := false
  deriving DecidableEq

/-- `token` is `FBSDKAccessToken.current`, an account id.  `accounts` and `passed`
    are histories, not in the source: the accounts whose responses were stored,
    and the pairs passed. -/
structure LoginViewController where
  token : Option String := none
  users : List User := []
  graphRequests : Requests String := .empty
  signUps : Requests (String × String) := .empty
  interactiveAuthDelegate : Bool := false
  passwordAuthenticationCompletion : Option AWSTaskCompletionSource := none
  accounts : List String := []
  passed : List PassedPair := []

/-- `relaunch` starts the app anew: the token and Realm stay, closures do not. -/
inductive LoginEvent where
  | viewDidLoad
  | relaunch
  | didCompleteWith (account : Option String)
  | didLogOut
  | graphReturned (serial : ℕ) (failed : Bool)
  | signUpReturned (serial : ℕ) (error : Option (Option String))
  | getDetails
  | handleUserPoolSignInFlowStart

namespace LoginViewController

variable (profile : String → GraphProfile)

def pass (vc : LoginViewController) (user : User) : LoginViewController :=
  { vc with passed := vc.passed ++ [⟨user.userName, user.password, vc.token⟩] }

def createAWSUser (vc : LoginViewController) : LoginViewController :=
  match RealmInteractor.fetchUser vc.users with
  | some possibleUser =>
      { vc.pass possibleUser with
        signUps := vc.signUps.issue (possibleUser.userName, possibleUser.password) }
  | none => vc

/-- Without a stored user the current account is asked for. -/
def fetchFacebookUser (vc : LoginViewController) : LoginViewController :=
  if (RealmInteractor.fetchUser vc.users).isSome then vc.createAWSUser
  else
    match vc.token with
    | some account => { vc with graphRequests := vc.graphRequests.issue account }
    | none => vc

def login (vc : LoginViewController) : LoginViewController :=
  if vc.token.isSome then vc.fetchFacebookUser else vc

/-- The user made from the response for an account; the id is always there. -/
def realmUser (account : String) : Except Trap User := do
  let email ← unwrap .email (profile account).email
  let givenName ← unwrap .first_name (profile account).first_name
  let surName ← unwrap .last_name (profile account).last_name
  return {
    userName := email ++ "_" ++ account
    givenName := givenName
    surName := surName
    email := email
    password := account }

/-- A response is stored, whoever is logged in by then. -/
def graphReturned (vc : LoginViewController) (serial : ℕ) (failed : Bool) :
    Except Trap LoginViewController :=
  match vc.graphRequests.find serial with
  | some account =>
      let vc := { vc with graphRequests := vc.graphRequests.settle serial }
      if failed then .ok vc
      else do
        let user ← realmUser profile account
        let vc := { vc with
          users := RealmInteractor.saveUser vc.users user
          accounts := vc.accounts ++ [account] }
        return vc.fetchFacebookUser
  | none => .ok vc

def loginToAWS (vc : LoginViewController) : LoginViewController :=
  { vc with interactiveAuthDelegate := true }

/-- An error without a message traps. -/
def signUpReturned (vc : LoginViewController) (serial : ℕ) (error : Option (Option String)) :
    Except Trap LoginViewController :=
  match vc.signUps.find serial, error with
  | some _, some message => do
      let errorMessage ← unwrap .message message
      let vc := { vc with signUps := vc.signUps.settle serial }
      return if errorMessage = "User already exists" then vc.loginToAWS else vc
  | some _, none => .ok { vc with signUps := vc.signUps.settle serial }
  | none, _ => .ok vc

/-- Setting the result of a completed source raises an exception. -/
def handleUserPoolSignInFlowStart (vc : LoginViewController) :
    Except Trap LoginViewController :=
  match RealmInteractor.fetchUser vc.users, vc.passwordAuthenticationCompletion with
  | some possibleUser, some source =>
      if source.isCompleted then .error .exception
      else .ok { vc.pass possibleUser with passwordAuthenticationCompletion := some ⟨true⟩ }
  | _, _ => .ok vc

def step (vc : LoginViewController) : LoginEvent → Except Trap LoginViewController
  | .viewDidLoad => .ok vc.login
  | .relaunch =>
      .ok { vc with
        graphRequests := .empty
        signUps := .empty
        interactiveAuthDelegate := false
        passwordAuthenticationCompletion := none }
  | .didCompleteWith account => .ok { vc with token := account <|> vc.token }.login
  | .didLogOut => .ok { vc with token := none }
  | .graphReturned serial failed => vc.graphReturned profile serial failed
  | .signUpReturned serial error => vc.signUpReturned serial error
  | .getDetails => .ok { vc with passwordAuthenticationCompletion := some {} }
  | .handleUserPoolSignInFlowStart => vc.handleUserPoolSignInFlowStart

def machine : Machine LoginViewController LoginEvent Trap where
  init := {}
  step := step profile

/-! ## Section 2: Whose pair is passed -/

/-- The users in Realm are those of the stored accounts, in order. -/
def LoginInv (vc : LoginViewController) : Prop :=
  vc.accounts.map (realmUser profile) = vc.users.map .ok

variable {profile}

/-- The pair derived from an account. -/
def IsPairOf (profile : String → GraphProfile) (pair : PassedPair) (account : String) : Prop :=
  ∃ email, (profile account).email = some email ∧ pair.userName = email ++ "_" ++ account ∧
    pair.password = account

/-- The pair is that of the account logged in when it was passed. -/
def IsCurrent (profile : String → GraphProfile) (pair : PassedPair) : Prop :=
  ∃ account, pair.account = some account ∧ IsPairOf profile pair account

/-- Whoever is logged in is the first account ever stored. -/
def FirstIs (accounts : List String) (token : Option String) : Prop :=
  ∀ first, accounts.head? = some first → token = some first

theorem realmUser_eq_ok {account : String} {user : User}
    (h : realmUser profile account = .ok user) :
    (profile account).email = some user.email ∧ user.userName = user.email ++ "_" ++ account ∧
      user.password = account := by
  obtain ⟨email, hemail, h⟩ := bind_eq_ok.mp h
  obtain ⟨givenName, _, h⟩ := bind_eq_ok.mp h
  obtain ⟨surName, _, rfl⟩ := bind_pure_eq_ok.mp h
  exact ⟨unwrap_eq_ok.mp hemail, rfl, rfl⟩

/-- The user that is fetched belongs to the first account stored. -/
theorem LoginInv.first_of_fetchUser {vc : LoginViewController} (hinv : vc.LoginInv profile)
    {user : User} (h : RealmInteractor.fetchUser vc.users = some user) :
    ∃ first, vc.accounts.head? = some first ∧ realmUser profile first = .ok user := by
  have hhead := congrArg List.head? hinv
  rw [List.head?_map, List.head?_map, show vc.users.head? = some user from h] at hhead
  exact Option.map_eq_some_iff.mp hhead

theorem LoginInv.accounts_of_fetchUser_none {vc : LoginViewController}
    (hinv : vc.LoginInv profile) (h : RealmInteractor.fetchUser vc.users = none) :
    vc.accounts.head? = none := by
  have hhead := congrArg List.head? hinv
  rw [List.head?_map, List.head?_map, show vc.users.head? = none from h] at hhead
  exact Option.map_eq_none_iff.mp hhead

/-- Passing the pair of a user is right exactly for the account logged in. -/
theorem isCurrent_pass_iff {account : String} {user : User} (token : Option String)
    (h : realmUser profile account = .ok user) :
    IsCurrent profile ⟨user.userName, user.password, token⟩ ↔ token = some account := by
  obtain ⟨hemail, huserName, hpassword⟩ := realmUser_eq_ok h
  constructor
  · rintro ⟨account', htoken, _, _, _, hpassword'⟩
    have hsame : account = account' := hpassword.symm.trans hpassword'
    rw [hsame]
    exact htoken
  · intro htoken
    exact ⟨account, htoken, user.email, hemail, huserName, hpassword⟩

/-- All pairs passed so far were current. -/
def AllCurrent (profile : String → GraphProfile) (vc : LoginViewController) : Prop :=
  ∀ pair ∈ vc.passed, IsCurrent profile pair

theorem allCurrent_pass {vc : LoginViewController} (hinv : vc.LoginInv profile) {user : User}
    (h : RealmInteractor.fetchUser vc.users = some user) :
    (vc.pass user).AllCurrent profile ↔
      vc.AllCurrent profile ∧ FirstIs vc.accounts vc.token := by
  obtain ⟨first, hfirst, huser⟩ := hinv.first_of_fetchUser h
  have hiff := isCurrent_pass_iff vc.token huser
  have hfirstIs : FirstIs vc.accounts vc.token ↔ vc.token = some first := by
    simp [FirstIs, hfirst]
  rw [hfirstIs, ← hiff]
  simp only [AllCurrent, pass, List.mem_append, List.mem_singleton, or_imp, forall_and, forall_eq]

/-- Fetching with a stored user passes the pair of the first account. -/
theorem allCurrent_fetchFacebookUser {vc : LoginViewController} (hinv : vc.LoginInv profile) :
    vc.fetchFacebookUser.AllCurrent profile ↔
      vc.AllCurrent profile ∧ FirstIs vc.accounts vc.token := by
  unfold fetchFacebookUser createAWSUser
  cases hfetch : RealmInteractor.fetchUser vc.users with
  | none =>
    have hfirst : FirstIs vc.accounts vc.token := by
      simp [FirstIs, hinv.accounts_of_fetchUser_none hfetch]
    rw [and_iff_left hfirst]
    cases vc.token with
    | none => rfl
    | some account => rfl
  | some user => exact allCurrent_pass hinv hfetch

theorem allCurrent_login {vc : LoginViewController} (hinv : vc.LoginInv profile) :
    vc.login.AllCurrent profile ↔
      vc.AllCurrent profile ∧ (vc.token.isSome → FirstIs vc.accounts vc.token) := by
  unfold login
  by_cases htoken : vc.token.isSome
  · simp [htoken, allCurrent_fetchFacebookUser hinv]
  · simp [htoken]

theorem loginInv_fetchFacebookUser {vc : LoginViewController} (hinv : vc.LoginInv profile) :
    vc.fetchFacebookUser.LoginInv profile := by
  unfold fetchFacebookUser createAWSUser
  cases RealmInteractor.fetchUser vc.users with
  | none =>
    cases vc.token with
    | none => exact hinv
    | some account => exact hinv
  | some user => exact hinv

theorem loginInv_login {vc : LoginViewController} (hinv : vc.LoginInv profile) :
    vc.login.LoginInv profile := by
  unfold login
  by_cases htoken : vc.token.isSome
  · simpa [htoken] using loginInv_fetchFacebookUser hinv
  · simpa [htoken] using hinv

/-- A response that is not stored changes no user; one that is stored adds the
    user of its account and fetches. -/
theorem graphReturned_eq_ok {vc vc' : LoginViewController} {serial : ℕ} {failed : Bool}
    (h : vc.graphReturned profile serial failed = .ok vc') :
    (vc'.users = vc.users ∧ vc'.accounts = vc.accounts ∧ vc'.passed = vc.passed ∧
      ∀ account, vc.graphRequests.find serial = some account → failed = true) ∨
    ∃ account user, failed = false ∧ vc.graphRequests.find serial = some account ∧
      realmUser profile account = .ok user ∧
      vc' = fetchFacebookUser { vc with
        graphRequests := vc.graphRequests.settle serial
        users := vc.users ++ [user]
        accounts := vc.accounts ++ [account] } := by
  unfold graphReturned at h
  cases hfind : vc.graphRequests.find serial with
  | none =>
    rw [hfind] at h
    cases h
    exact .inl ⟨rfl, rfl, rfl, by simp⟩
  | some account =>
    simp only [hfind] at h
    cases failed with
    | true =>
      cases h
      exact .inl ⟨rfl, rfl, rfl, by simp⟩
    | false =>
      obtain ⟨user, huser, rfl⟩ := bind_pure_eq_ok.mp h
      exact .inr ⟨account, user, rfl, rfl, huser, rfl⟩

/-- Storing the user of an account keeps users and accounts together. -/
theorem loginInv_store {vc : LoginViewController} (hinv : vc.LoginInv profile) {account : String}
    {user : User} (huser : realmUser profile account = .ok user) (requests : Requests String) :
    LoginInv profile { vc with
      graphRequests := requests
      users := vc.users ++ [user]
      accounts := vc.accounts ++ [account] } := by
  unfold LoginInv at hinv ⊢
  -- both lists grow by the same account
  rw [List.map_append, List.map_append, hinv, List.map_singleton, List.map_singleton, huser]

theorem signUpReturned_eq_ok {vc vc' : LoginViewController} {serial : ℕ}
    {error : Option (Option String)} (h : vc.signUpReturned serial error = .ok vc') :
    vc'.users = vc.users ∧ vc'.accounts = vc.accounts ∧ vc'.passed = vc.passed := by
  unfold signUpReturned at h
  cases hfind : vc.signUps.find serial with
  | none =>
    rw [hfind] at h
    cases h
    exact ⟨rfl, rfl, rfl⟩
  | some pair =>
    cases error with
    | none =>
      rw [hfind] at h
      cases h
      exact ⟨rfl, rfl, rfl⟩
    | some message =>
      rw [hfind] at h
      obtain ⟨errorMessage, _, rfl⟩ := bind_pure_eq_ok.mp h
      by_cases hexists : errorMessage = "User already exists"
      · simp [hexists, loginToAWS]
      · simp [hexists]

/-- The start of the password flow passes the pair of the first user to a source
    that waits for it, and nothing otherwise. -/
theorem handleUserPoolSignInFlowStart_eq_ok {vc vc' : LoginViewController}
    (h : vc.handleUserPoolSignInFlowStart = .ok vc') :
    (vc' = vc ∧ (RealmInteractor.fetchUser vc.users = none ∨
      vc.passwordAuthenticationCompletion = none)) ∨
    ∃ user, RealmInteractor.fetchUser vc.users = some user ∧
      vc.passwordAuthenticationCompletion = some ⟨false⟩ ∧
      vc' = { vc.pass user with passwordAuthenticationCompletion := some ⟨true⟩ } := by
  unfold handleUserPoolSignInFlowStart at h
  cases hfetch : RealmInteractor.fetchUser vc.users with
  | none =>
    rw [hfetch] at h
    cases h
    exact .inl ⟨rfl, .inl rfl⟩
  | some user =>
    cases hsource : vc.passwordAuthenticationCompletion with
    | none =>
      rw [hfetch, hsource] at h
      cases h
      exact .inl ⟨rfl, .inr rfl⟩
    | some source =>
      obtain ⟨isCompleted⟩ := source
      simp only [hfetch, hsource] at h
      -- a source that has settled raises an exception when it is set again
      cases isCompleted with
      | true => cases h
      | false =>
        cases h
        exact .inr ⟨user, rfl, rfl, rfl⟩

theorem loginInv_step {vc vc' : LoginViewController} {e : LoginEvent}
    (hinv : vc.LoginInv profile) (h : vc.step profile e = .ok vc') : vc'.LoginInv profile := by
  cases e with
  | viewDidLoad =>
    cases h
    exact loginInv_login hinv
  | didCompleteWith account =>
    cases h
    exact loginInv_login hinv
  | graphReturned serial failed =>
    rcases graphReturned_eq_ok h with ⟨husers, haccounts, _⟩ | ⟨_, _, _, _, huser, rfl⟩
    · unfold LoginInv
      rw [husers, haccounts]
      exact hinv
    · exact loginInv_fetchFacebookUser (loginInv_store hinv huser _)
  | signUpReturned serial error =>
    obtain ⟨husers, haccounts, _⟩ := signUpReturned_eq_ok h
    unfold LoginInv
    rw [husers, haccounts]
    exact hinv
  | handleUserPoolSignInFlowStart =>
    rcases handleUserPoolSignInFlowStart_eq_ok h with ⟨rfl, _⟩ | ⟨_, _, _, rfl⟩
    · exact hinv
    · exact hinv
  | relaunch =>
    cases h
    exact hinv
  | didLogOut =>
    cases h
    exact hinv
  | getDetails =>
    cases h
    exact hinv

/-- At a step that reads the stored user to pass its pair, the account logged in
    is the first one ever stored. -/
def FirstIsCurrent (vc : LoginViewController) : LoginEvent → Prop
  | .viewDidLoad => vc.token.isSome → FirstIs vc.accounts vc.token
  | .didCompleteWith account =>
      (account <|> vc.token).isSome → FirstIs vc.accounts (account <|> vc.token)
  | .graphReturned serial failed => ∀ account, vc.graphRequests.find serial = some account →
      failed = false → FirstIs (vc.accounts ++ [account]) vc.token
  | .handleUserPoolSignInFlowStart => vc.passwordAuthenticationCompletion = some ⟨false⟩ →
      FirstIs vc.accounts vc.token
  | _ => True

theorem allCurrent_graphReturned {vc vc' : LoginViewController} {serial : ℕ} {failed : Bool}
    (hinv : vc.LoginInv profile) (h : vc.graphReturned profile serial failed = .ok vc') :
    vc'.AllCurrent profile ↔
      vc.AllCurrent profile ∧ vc.FirstIsCurrent (.graphReturned serial failed) := by
  rcases graphReturned_eq_ok h with
    ⟨_, _, hpassed, hfailed⟩ | ⟨account, user, rfl, hfind, huser, rfl⟩
  · -- nothing was stored: the response was of no request, or a failed one
    have hnone : vc.FirstIsCurrent (.graphReturned serial failed) := by
      intro account hfind hnot
      rw [hfailed account hfind] at hnot
      cases hnot
    unfold AllCurrent
    rw [hpassed, and_iff_left hnone]
  · rw [allCurrent_fetchFacebookUser (loginInv_store hinv huser _)]
    simp [AllCurrent, FirstIsCurrent, hfind]

theorem allCurrent_signInFlowStart {vc vc' : LoginViewController} (hinv : vc.LoginInv profile)
    (h : vc.handleUserPoolSignInFlowStart = .ok vc') :
    vc'.AllCurrent profile ↔
      vc.AllCurrent profile ∧ vc.FirstIsCurrent .handleUserPoolSignInFlowStart := by
  rcases handleUserPoolSignInFlowStart_eq_ok h with ⟨rfl, hnone⟩ | ⟨user, hfetch, hsource, rfl⟩
  · -- no pair is passed: no user is stored, or no source waits
    have hmeets : vc'.FirstIsCurrent .handleUserPoolSignInFlowStart := by
      intro hsource
      rcases hnone with hnone | hnone
      · simp [FirstIs, hinv.accounts_of_fetchUser_none hnone]
      · rw [hnone] at hsource
        cases hsource
    rw [and_iff_left hmeets]
  · have hmeets : vc.FirstIsCurrent .handleUserPoolSignInFlowStart ↔
        FirstIs vc.accounts vc.token := by simp [FirstIsCurrent, hsource]
    rw [hmeets]
    exact allCurrent_pass hinv hfetch

/-- **One step** keeps all pairs current exactly when it meets the condition. -/
theorem allCurrent_step {vc vc' : LoginViewController} {e : LoginEvent}
    (hinv : vc.LoginInv profile) (h : vc.step profile e = .ok vc') :
    vc'.AllCurrent profile ↔ vc.AllCurrent profile ∧ vc.FirstIsCurrent e := by
  cases e with
  | viewDidLoad =>
    cases h
    exact allCurrent_login hinv
  | didCompleteWith account =>
    cases h
    exact allCurrent_login hinv
  | graphReturned serial failed => exact allCurrent_graphReturned hinv h
  | handleUserPoolSignInFlowStart => exact allCurrent_signInFlowStart hinv h
  | signUpReturned serial error =>
    obtain ⟨_, _, hpassed⟩ := signUpReturned_eq_ok h
    unfold AllCurrent
    rw [hpassed]
    exact (and_iff_left trivial).symm
  | relaunch =>
    cases h
    exact (and_iff_left trivial).symm
  | didLogOut =>
    cases h
    exact (and_iff_left trivial).symm
  | getDetails =>
    cases h
    exact (and_iff_left trivial).symm

/-- **Credentials.** Every pair that a run passes to Cognito is that of the
    account logged in at that step exactly when, at every step that reads the
    stored user, the account logged in is the first one ever stored. -/
theorem pairs_current_iff {es : List LoginEvent} {vc : LoginViewController}
    (h : (machine profile).run {} es = .ok vc) :
    vc.AllCurrent profile ↔ (machine profile).Meets FirstIsCurrent {} es := by
  have hinv : ∀ vc e vc', LoginInv profile vc → (machine profile).step vc e = .ok vc' →
      LoginInv profile vc' := by
    intro vc e vc' hinv h
    exact loginInv_step hinv h
  have hgood : ∀ vc e vc', LoginInv profile vc → (machine profile).step vc e = .ok vc' →
      (AllCurrent profile vc' ↔ AllCurrent profile vc ∧ FirstIsCurrent vc e) := by
    intro vc e vc' hinv h
    exact allCurrent_step hinv h
  have hinit : AllCurrent profile {} := by simp [AllCurrent]
  simpa [hinit] using Machine.good_iff_meets hinv hgood (rfl : LoginInv profile {}) h

def sampleProfile (account : String) : GraphProfile :=
  ⟨some (account ++ "@mail"), some "Given", some "Sur"⟩

/-- One account signs up, and in again through the password flow. -/
def signInAgain : List LoginEvent :=
  [.viewDidLoad, .didCompleteWith (some "1"), .graphReturned 0 false,
   .signUpReturned 0 (some (some "User already exists")), .getDetails,
   .handleUserPoolSignInFlowStart]

theorem pairs_current_iff_signInAgain :
    ∃ vc, (machine sampleProfile).run {} signInAgain = .ok vc ∧ vc.passed.length = 2 ∧
      (vc.AllCurrent sampleProfile ↔
        (machine sampleProfile).Meets FirstIsCurrent {} signInAgain) := by
  have hevaluated : ∃ vc, (machine sampleProfile).run {} signInAgain = .ok vc ∧
      vc.passed.length = 2 := Machine.exists_run_eq_ok _ (by decide)
  obtain ⟨vc, hrun, hpassed⟩ := hevaluated
  exact ⟨vc, hrun, hpassed, pairs_current_iff hrun⟩

/-- A second account logs in after the first has logged out: the pair of the
    first one is passed for it. -/
theorem second_account_passes_first :
    ∃ vc, (machine sampleProfile).run {}
        [.viewDidLoad, .didCompleteWith (some "1"), .graphReturned 0 false, .didLogOut,
         .didCompleteWith (some "2")] = .ok vc ∧
      ⟨"1@mail_1", "1", some "2"⟩ ∈ vc.passed ∧ ¬ vc.AllCurrent sampleProfile := by
  have hevaluated : ∃ vc, (machine sampleProfile).run {}
      [.viewDidLoad, .didCompleteWith (some "1"), .graphReturned 0 false, .didLogOut,
       .didCompleteWith (some "2")] = .ok vc ∧ ⟨"1@mail_1", "1", some "2"⟩ ∈ vc.passed :=
    Machine.exists_run_eq_ok _ (by decide)
  obtain ⟨vc, hrun, hpassed⟩ := hevaluated
  refine ⟨vc, hrun, hpassed, ?_⟩
  intro hall
  -- the password of a pair is the account's own id
  obtain ⟨account, haccount, _, _, _, hpassword⟩ := hall _ hpassed
  have hsame : "2" = account := Option.some.inj haccount
  have hsame' : "1" = account := hpassword
  exact absurd (hsame.trans hsame'.symm) (by decide)

/-! ## Section 3: The first account stays -/

/-- What any number of steps does at most.  Users are only added; a pair passed on
    the way is that of the user that is first at the end; and once there is a user,
    a new one takes an outstanding request and no request is made. -/
structure Advances (vc vc' : LoginViewController) : Prop where
  users : ∃ added, vc'.users = vc.users ++ added
  passed : ∀ pair ∈ vc'.passed, pair ∈ vc.passed ∨
    ∃ user, RealmInteractor.fetchUser vc'.users = some user ∧
      pair.userName = user.userName ∧ pair.password = user.password
  requests : vc.users ≠ [] →
    vc'.users.length + vc'.graphRequests.outstanding.length ≤
      vc.users.length + vc.graphRequests.outstanding.length

/-- Adding users leaves the one that is fetched. -/
theorem fetchUser_append {users : List User} {user : User} (added : List User)
    (h : RealmInteractor.fetchUser users = some user) :
    RealmInteractor.fetchUser (users ++ added) = some user := by
  cases users with
  | nil => cases h
  | cons first rest => exact h

/-- A step that stores and passes nothing, and asks for nothing. -/
theorem Advances.of_same {vc vc' : LoginViewController} (husers : vc'.users = vc.users)
    (hpassed : vc'.passed = vc.passed)
    (hrequests : vc'.graphRequests.outstanding.length ≤ vc.graphRequests.outstanding.length) :
    vc.Advances vc' where
  users := ⟨[], by rw [husers, List.append_nil]⟩
  passed := by
    intro pair hpair
    exact .inl (hpassed ▸ hpair)
  requests := by
    intro _
    rw [husers]
    omega

theorem Advances.refl (vc : LoginViewController) : vc.Advances vc :=
  .of_same rfl rfl (Nat.le_refl _)

theorem Advances.trans {vc vc' vc'' : LoginViewController} (h : vc.Advances vc')
    (h' : vc'.Advances vc'') : vc.Advances vc'' := by
  obtain ⟨added, hadded⟩ := h.users
  obtain ⟨added', hadded'⟩ := h'.users
  refine ⟨⟨added ++ added', by rw [hadded', hadded, List.append_assoc]⟩, ?_, ?_⟩
  · intro pair hpair
    rcases h'.passed pair hpair with hpair | hfirst
    · rcases h.passed pair hpair with hpair | ⟨user, huser, hpairOf⟩
      · exact .inl hpair
      · rw [hadded']
        exact .inr ⟨user, fetchUser_append added' huser, hpairOf⟩
    · exact .inr hfirst
  · intro hne
    have hne' : vc'.users ≠ [] := by simp [hadded, hne]
    exact (h'.requests hne').trans (h.requests hne)

/-- Passing the pair of the stored user. -/
theorem advances_pass {vc : LoginViewController} {user : User}
    (h : RealmInteractor.fetchUser vc.users = some user) : vc.Advances (vc.pass user) where
  users := ⟨[], (List.append_nil _).symm⟩
  passed := by
    intro pair hpair
    rcases List.mem_append.mp hpair with hpair | hpair
    · exact .inl hpair
    · rw [List.mem_singleton.mp hpair]
      exact .inr ⟨user, h, rfl, rfl⟩
  requests := by
    intro _
    exact Nat.le_refl _

/-- With a user stored, fetching passes its pair and asks for nothing; without one
    a request may be made. -/
theorem advances_fetchFacebookUser (vc : LoginViewController) :
    vc.Advances vc.fetchFacebookUser := by
  unfold fetchFacebookUser createAWSUser
  cases hfetch : RealmInteractor.fetchUser vc.users with
  | none =>
    have hnil : vc.users = [] := List.head?_eq_none_iff.mp hfetch
    cases vc.token with
    | none => exact Advances.refl vc
    | some account =>
      exact ⟨⟨[], (List.append_nil _).symm⟩, fun pair hpair => .inl hpair,
        fun hne => absurd hnil hne⟩
  | some user => exact (advances_pass hfetch).trans (.of_same rfl rfl (Nat.le_refl _))

theorem advances_login (vc : LoginViewController) : vc.Advances vc.login := by
  unfold login
  split_ifs
  · exact advances_fetchFacebookUser vc
  · exact Advances.refl vc

/-- A response that is stored has settled its request. -/
theorem advances_graphReturned {vc vc' : LoginViewController} {serial : ℕ} {failed : Bool}
    (h : vc.graphReturned profile serial failed = .ok vc') : vc.Advances vc' := by
  unfold graphReturned at h
  cases hfind : vc.graphRequests.find serial with
  | none =>
    rw [hfind] at h
    obtain rfl := Except.ok.inj h
    exact Advances.refl vc
  | some account =>
    have hsettled := Requests.length_settle_lt hfind
    simp only [hfind] at h
    split_ifs at h with hfailed
    · obtain rfl := Except.ok.inj h
      exact .of_same rfl rfl (Nat.le_of_lt hsettled)
    · obtain ⟨user, _, rfl⟩ := bind_pure_eq_ok.mp h
      -- one user more, one request less
      have hstored : vc.Advances { vc with
          graphRequests := vc.graphRequests.settle serial
          users := RealmInteractor.saveUser vc.users user
          accounts := vc.accounts ++ [account] } := by
        refine ⟨⟨[user], rfl⟩, fun pair hpair => .inl hpair, fun _ => ?_⟩
        show (vc.users ++ [user]).length + (vc.graphRequests.settle serial).outstanding.length ≤ _
        rw [List.length_append, List.length_singleton]
        omega
      exact hstored.trans (advances_fetchFacebookUser _)

theorem advances_signUpReturned {vc vc' : LoginViewController} {serial : ℕ}
    {error : Option (Option String)} (h : vc.signUpReturned serial error = .ok vc') :
    vc.Advances vc' := by
  obtain ⟨husers, _, hpassed⟩ := signUpReturned_eq_ok h
  have hrequests : vc'.graphRequests = vc.graphRequests := by
    unfold signUpReturned at h
    split at h
    · obtain ⟨errorMessage, _, rfl⟩ := bind_pure_eq_ok.mp h
      split_ifs
      · rfl
      · rfl
    · rw [← Except.ok.inj h]
    · rw [← Except.ok.inj h]
  exact .of_same husers hpassed (by rw [hrequests])

theorem advances_step {vc vc' : LoginViewController} {e : LoginEvent}
    (h : vc.step profile e = .ok vc') : vc.Advances vc' := by
  cases e with
  | viewDidLoad =>
    rw [← Except.ok.inj h]
    exact advances_login vc
  | relaunch =>
    rw [← Except.ok.inj h]
    exact .of_same rfl rfl (Nat.zero_le _)
  | didCompleteWith account =>
    rw [← Except.ok.inj h]
    have htoken : vc.Advances { vc with token := account <|> vc.token } :=
      .of_same rfl rfl (Nat.le_refl _)
    exact htoken.trans (advances_login _)
  | graphReturned serial failed => exact advances_graphReturned h
  | signUpReturned serial error => exact advances_signUpReturned h
  | handleUserPoolSignInFlowStart =>
    rcases handleUserPoolSignInFlowStart_eq_ok h with ⟨rfl, _⟩ | ⟨user, hfetch, _, rfl⟩
    · exact Advances.refl vc'
    · exact (advances_pass hfetch).trans (.of_same rfl rfl (Nat.le_refl _))
  | didLogOut =>
    rw [← Except.ok.inj h]
    exact .of_same rfl rfl (Nat.le_refl _)
  | getDetails =>
    rw [← Except.ok.inj h]
    exact .of_same rfl rfl (Nat.le_refl _)

theorem advances_run {es : List LoginEvent} {vc vc' : LoginViewController}
    (h : (machine profile).run vc es = .ok vc') : vc.Advances vc' :=
  Machine.run_relates Advances.refl (fun _ _ _ h h' => h.trans h') (fun _ _ _ h => advances_step h) h

/-- **One account for ever.** From the first stored user on, whoever logs in or out:
    it stays the user that is fetched, every pair passed before or after is its
    pair, and the users that are still to be added are answers to requests that
    were outstanding by then. -/
theorem first_user_stays {es es' : List LoginEvent} {vc vc' : LoginViewController} {first : User}
    (h : (machine profile).run {} es = .ok vc)
    (hfirst : RealmInteractor.fetchUser vc.users = some first)
    (h' : (machine profile).run vc es' = .ok vc') :
    RealmInteractor.fetchUser vc'.users = some first ∧
    (∀ pair ∈ vc'.passed, pair.userName = first.userName ∧ pair.password = first.password) ∧
    vc'.users.length + vc'.graphRequests.outstanding.length ≤
      vc.users.length + vc.graphRequests.outstanding.length := by
  have hbefore := advances_run h
  have hafter := advances_run h'
  obtain ⟨added, hadded⟩ := hafter.users
  have hstays : RealmInteractor.fetchUser vc'.users = some first := by
    rw [hadded]
    exact fetchUser_append added hfirst
  refine ⟨hstays, ?_, ?_⟩
  · intro pair hpair
    -- whenever the pair was passed, the user that was first then is first now
    rcases hafter.passed pair hpair with hpair | ⟨user, huser, hpairOf⟩
    · rcases hbefore.passed pair hpair with hpair | ⟨user, huser, hpairOf⟩
      · cases hpair
      · rw [hfirst] at huser
        exact Option.some.inj huser ▸ hpairOf
    · rw [hstays] at huser
      exact Option.some.inj huser ▸ hpairOf
  · apply hafter.requests
    intro hnil
    rw [hnil] at hfirst
    cases hfirst

/-- Two accounts log in before the first response arrives. -/
def twoAccounts : List LoginEvent :=
  [.viewDidLoad, .didCompleteWith (some "1"), .didLogOut, .didCompleteWith (some "2"),
   .graphReturned 1 false]

theorem first_user_stays_twoAccounts :
    ∃ vc vc' first, (machine sampleProfile).run {} twoAccounts = .ok vc ∧
      RealmInteractor.fetchUser vc.users = some first ∧ first.password = "2" ∧
      (machine sampleProfile).run vc [.graphReturned 0 false] = .ok vc' ∧
      RealmInteractor.fetchUser vc'.users = some first := by
  have hevaluated : ∃ vc, (machine sampleProfile).run {} twoAccounts = .ok vc ∧
      (RealmInteractor.fetchUser vc.users).map (·.password) = some "2" ∧
      ((machine sampleProfile).run vc [.graphReturned 0 false]).isOk = true :=
    Machine.exists_run_eq_ok _ (by decide)
  obtain ⟨vc, hrun, hpassword, hok⟩ := hevaluated
  obtain ⟨first, hfirst, hpassword⟩ := Option.map_eq_some_iff.mp hpassword
  cases hrun' : (machine sampleProfile).run vc [.graphReturned 0 false] with
  | error t =>
    rw [hrun'] at hok
    cases hok
  | ok vc' => exact ⟨vc, vc', first, hrun, hfirst, hpassword, hrun',
      (first_user_stays hrun hfirst hrun').1⟩

end LoginViewController

end RideHitch
