import LeaderProduct.Notifications

/-! Who a dispatch of notifications reaches. Every user has said of each switch and of each appeal
what is wanted, last of all by the latest request about it; a dispatch goes by these last words. -/
namespace LeaderProduct
open Interleaving Transition

section Purpose

def globalSwitch : NotificationChannel → NotificationSetting
  | .push => .inAppNotificationsEnabled
  | .telegram => .telegramNotificationsEnabled
  | .max => .maxNotificationsEnabled

def typeSwitch : NotificationChannel → AppealNotificationType → Option NotificationSetting
  | .push, .newMessage => some .pushNewMessage
  | .push, .statusChanged => some .pushStatusChanged
  | .push, .deadlineChanged => some .pushDeadlineChanged
  | .push, _ => none
  | .telegram, .newAppeal => some .telegramNewAppeal
  | .telegram, .statusChanged => some .telegramStatusChanged
  | .telegram, .deadlineChanged => some .telegramDeadlineChanged
  | .telegram, .unreadReminder => some .telegramUnreadReminder
  | .telegram, .closureReminder => some .telegramClosureReminder
  | .telegram, .newMessage => some .telegramNewMessage
  | .max, .newAppeal => some .maxNewAppeal
  | .max, .statusChanged => some .maxStatusChanged
  | .max, .deadlineChanged => some .maxDeadlineChanged
  | .max, .unreadReminder => some .maxUnreadReminder
  | .max, .closureReminder => some .maxClosureReminder
  | .max, .newMessage => some .maxNewMessage

def settingSaid (userId : Nat) (setting : NotificationSetting) : NotifyWrite → Option Bool
  | .saveSettings other data => if other = userId then data.lookup setting else none
  | _ => none

def muteSaid (userId appealId : Nat) : NotifyWrite → Option Bool
  | .mute user appeal => if user = userId ∧ appeal = appealId then some true else none
  | .unmute user appeal => if user = userId ∧ appeal = appealId then some false else none
  | _ => none

/-- What a dispatch goes by: what the users wish and have muted, who is online, and the rows of the
users for the two messengers. -/
structure Audience where
  wished : Nat → NotificationSettings
  muted : Nat → Bool
  online : Nat → Bool
  telegramUsers : List NotifiedUser
  maxUsers : List NotifiedUser

def wants (wished : NotificationSettings) (channel : NotificationChannel)
    (type : AppealNotificationType) : Bool :=
  wished (globalSwitch channel) && (typeSwitch channel type).all wished

variable (env : NotifyEnv) (payload : NotificationPayload) (audience : Audience)

/-- Who is to get the message on the channel: each recipient once, and the sender not at all. -/
def receivers (channel : NotificationChannel) : List Nat :=
  (uniqIds payload).filter fun userId =>
    !(payload.respectMute && audience.muted userId) && payload.channels.contains channel &&
      wants (audience.wished userId) channel payload.type &&
      !(shouldSuppressForOnline env channel payload.type && audience.online userId)

def infoMessages (text : Option String) (chatId : NotifiedUser → Option Int)
    (message : InfoMessage → OutgoingMessage) (users : List NotifiedUser) : List OutgoingMessage :=
  match text.filter (· ≠ "") with
  | none => []
  | some text => (users.filterMap chatId).map fun id => message (infoMessage text id)

def audienceMessages : List OutgoingMessage :=
  (receivers env payload audience .push).map (fun userId => .push userId (pushMessage payload)) ++
    infoMessages payload.telegramText NotifiedUser.telegramId .telegram
      (audience.telegramUsers.filter fun user =>
        (receivers env payload audience .telegram).contains user.id) ++
    infoMessages payload.maxText NotifiedUser.maxId .max
      (audience.maxUsers.filter fun user =>
        (receivers env payload audience .max).contains user.id)

def NotifyWrite.messages : NotifyWrite → List OutgoingMessage
  | .send messages => messages
  | _ => []

def stateAfter (db : NotifyState) (past : List NotifyWrite) : NotifyState :=
  past.foldl (fun t w => w.apply env t) db

/-- What a row shows of a switch, or the default where there is none. -/
def NotifyState.shown (s : NotifyState) (userId : Nat) : NotificationSettings :=
  (s.settings userId).getD defaultSettings

/-- Each part of what the dispatch goes by is that of a moment, given by the writes before it.
Online is who has a row at one moment, and, with Redis open at another, a mark in it at a third. -/
structure Audience.At (appealId : Nat) (db : NotifyState) (moment : List NotifyWrite → Prop) :
    Prop where
  wished : ∃ past, moment past ∧ ∀ userId setting, audience.wished userId setting =
    lastWord (settingSaid userId setting) past (db.shown userId setting)
  muted : ∃ past, moment past ∧ ∀ userId, audience.muted userId =
    lastWord (muteSaid userId appealId) past (db.mutes userId appealId)
  online : ∃ past later last, moment past ∧ moment later ∧ moment last ∧
    ∀ userId, audience.online userId =
      ((stateAfter env db later).redisOpen &&
        ((stateAfter env db past).users.rows.map (·.id)).contains userId &&
        (stateAfter env db last).isOnline userId)
  telegramUsers : ∃ past, moment past ∧ audience.telegramUsers = (stateAfter env db past).users.rows
  maxUsers : ∃ past, moment past ∧ audience.maxUsers = (stateAfter env db past).users.rows

end Purpose

section Wishes
variable {env : NotifyEnv} {payload : NotificationPayload}

theorem globalOn_eq (channel : NotificationChannel) (s : NotificationSettings) :
    globalOn channel s = s (globalSwitch channel) := by
  cases channel <;> rfl

theorem typeOn_eq (channel : NotificationChannel) (type : AppealNotificationType)
    (s : NotificationSettings) : typeOn channel type s = (typeSwitch channel type).all s := by
  cases channel <;> cases type <;> rfl

theorem channel_wanted (s : NotifyState) (userId : Nat) (channel : NotificationChannel)
    (type : AppealNotificationType) :
    (((s.settings userId).map (globalOn channel)).getD true &&
      ((s.settings userId).map (typeOn channel type)).getD true) =
        wants (s.shown userId) channel type := by
  cases row : s.settings userId with
  | none => cases channel <;> cases type <;> simp [wants, NotifyState.shown, row, defaultSettings, typeSwitch]
  | some row' => simp [wants, NotifyState.shown, row, globalOn_eq, typeOn_eq]

theorem savedSettings_eq (row : Option NotificationSettings)
    (data : List (NotificationSetting × Bool)) (setting : NotificationSetting) :
    savedSettings row data setting =
      (data.lookup setting).getD (row.getD defaultSettings setting) := by
  cases row <;> rfl

theorem shown_apply (userId : Nat) (setting : NotificationSetting) (w : NotifyWrite)
    (t : NotifyState) : (w.apply env t).shown userId setting =
      (settingSaid userId setting w).getD (t.shown userId setting) := by
  cases w with
  | saveSettings other data =>
    by_cases same : other = userId
    · subst same
      simp [NotifyWrite.apply, NotifyState.shown, settingSaid, savedSettings_eq]
    · simp [NotifyWrite.apply, NotifyState.shown, settingSaid, same, Ne.symm same]
  | _ => rfl

theorem mutes_apply (userId appealId : Nat) (w : NotifyWrite) (t : NotifyState) :
    (w.apply env t).mutes userId appealId =
      (muteSaid userId appealId w).getD (t.mutes userId appealId) := by
  have turned (user appeal : Nat) (muted : Bool) :
      Function.update t.mutes user (Function.update (t.mutes user) appeal muted) userId appealId =
        (if user = userId ∧ appeal = appealId then some muted else none).getD
          (t.mutes userId appealId) := by
    by_cases own : user = userId
    · subst own
      by_cases same : appeal = appealId
      · simp [same]
      · simp [same, Ne.symm same]
    · simp [own, Ne.symm own]
  cases w with
  | mute user appeal => exact turned user appeal true
  | unmute user appeal => exact turned user appeal false
  | _ => rfl

theorem shown_stateAfter (db : NotifyState) (past : List NotifyWrite) (userId : Nat)
    (setting : NotificationSetting) : (stateAfter env db past).shown userId setting =
      lastWord (settingSaid userId setting) past (db.shown userId setting) :=
  view_eq_lastWord (fun t : NotifyState => t.shown userId setting)
    (shown_apply userId setting) past db

theorem mutes_stateAfter (db : NotifyState) (past : List NotifyWrite) (userId appealId : Nat) :
    (stateAfter env db past).mutes userId appealId =
      lastWord (muteSaid userId appealId) past (db.mutes userId appealId) :=
  view_eq_lastWord (fun t : NotifyState => t.mutes userId appealId)
    (mutes_apply userId appealId) past db

end Wishes

section Course
variable {env : NotifyEnv} {payload : NotificationPayload} {C : NotifyState → Prop}
  {P : List NotifyWrite → NotifyReply → Prop}

variable {t : NotifyState} {text : Option String}

theorem readSettingsAndMutes_yields {mutesFirst : Bool} (some_moment : C t)
    {next : (Nat → Option NotificationSettings) → (Nat → Bool) → NotifyJob}
    (goes_on : ∀ s muting, C s → C muting →
      (next s.settings fun userId =>
        payload.respectMute && muting.mutes userId payload.appealId).Yields C P) :
    (readSettingsAndMutes payload mutesFirst next).Yields C P := by
  unfold readSettingsAndMutes
  cases respected : payload.respectMute with
  | false =>
    intro s here
    simpa [respected] using goes_on s t here some_moment
  | true =>
    simp only [respected, Bool.true_and] at goes_on
    cases mutesFirst with
    | true => exact fun muting there s here => goes_on s muting here there
    | false => exact fun s here muting there => goes_on s muting here there

theorem getOnlineUsersSet_yields {userIds : List Nat} (some_moment : C t)
    {next : (Nat → Bool) → NotifyJob} (goes_on : ∀ online found opened s, C found → C opened → C s →
      (∀ userId ∈ userIds, online userId =
        (opened.redisOpen && (found.users.rows.map (·.id)).contains userId && s.isOnline userId)) →
        (next online).Yields C P) : (getOnlineUsersSet userIds next).Yields C P := by
  unfold getOnlineUsersSet
  split
  · next nobody =>
    subst nobody
    exact goes_on _ t t t some_moment some_moment some_moment (by simp)
  · intro found here opened then_open
    dsimp only
    split
    · next is_open =>
      intro s there
      refine goes_on _ found opened s here then_open there fun userId asked => ?_
      simp [is_open, asked]
    · next closed =>
      refine goes_on _ found opened opened here then_open then_open fun userId _ => ?_
      simp [closed]

theorem messengerUsers_yields {ids : List Nat} (some_moment : C t)
    {next : List NotifiedUser → NotifyJob} (goes_on : ∀ users s, C s → (isGiven text = true →
      users = s.users.rows.filter fun user => ids.contains user.id) → (next users).Yields C P) :
    (messengerUsers ids text next).Yields C P := by
  unfold messengerUsers
  split
  · exact fun s here => goes_on _ s here fun _ => rfl
  · next unasked =>
    refine goes_on [] t some_moment fun given => ?_
    have nobody : ids = [] := by simpa [given] using unasked
    simp [nobody]

theorem infoMessages_of_not_given (missing : ¬isGiven text = true)
    (chatId : NotifiedUser → Option Int) (message : InfoMessage → OutgoingMessage)
    (users : List NotifiedUser) : infoMessages text chatId message users = [] := by
  cases text with
  | none => rfl
  | some text =>
    have empty : text = "" := by simpa [isGiven] using missing
    subst empty
    rfl

theorem sendInfo_yields {chatId : NotifiedUser → Option Int}
    {message : InfoMessage → OutgoingMessage} {users : List NotifiedUser} {next : NotifyJob}
    {P : List OutgoingMessage → Prop} (goes_on : next.Yields C fun rest _ =>
      P (infoMessages text chatId message users ++ rest.flatMap NotifyWrite.messages)) :
    (sendInfo text chatId message users next).Yields C
      fun writes _ => P (writes.flatMap NotifyWrite.messages) := by
  unfold sendInfo
  cases given : text.filter (· ≠ "") with
  | none =>
    simp only [infoMessages, given, List.nil_append] at goes_on
    exact goes_on
  | some text' =>
    simp only [infoMessages, given] at goes_on
    exact fun s here => goes_on

theorem finalIds_eq {audience : Audience} {s : NotifyState} {mutedSet online : Nat → Bool}
    {channel : NotificationChannel}
    (wished : ∀ userId, audience.wished userId = s.shown userId)
    (muted : ∀ userId, mutedSet userId = (payload.respectMute && audience.muted userId))
    (same : ∀ userId ∈ candidates payload s.settings mutedSet channel,
      online userId = audience.online userId) :
    finalIds env payload online channel (candidates payload s.settings mutedSet channel) =
      receivers env payload audience channel := by
  have split_wish (userId : Nat) :
      (!mutedSet userId && payload.channels.contains channel &&
        ((s.settings userId).map (globalOn channel)).getD true &&
          ((s.settings userId).map (typeOn channel payload.type)).getD true) =
        (!(payload.respectMute && audience.muted userId) && payload.channels.contains channel &&
          wants (audience.wished userId) channel payload.type) := by
    rw [muted, wished, ← channel_wanted, ← Bool.and_assoc]
  unfold finalIds receivers
  cases shouldSuppressForOnline env channel payload.type with
  | false =>
    refine List.filter_congr fun userId _ => ?_
    rw [split_wish, Bool.false_and, Bool.not_false, Bool.and_true]
  | true =>
    have left : (candidates payload s.settings mutedSet channel).filter (fun id => !online id) =
        (candidates payload s.settings mutedSet channel).filter fun id => !audience.online id :=
      List.filter_congr fun userId here => by rw [same userId here]
    rw [if_pos rfl, left, candidates, List.filter_filter]
    refine List.filter_congr fun userId _ => ?_
    rw [split_wish, Bool.true_and, Bool.and_comm]

structure Audience.Met (audience : Audience) (appealId : Nat) (C : NotifyState → Prop) : Prop where
  wished : ∃ s, C s ∧ ∀ userId, audience.wished userId = s.shown userId
  muted : ∃ s, C s ∧ ∀ userId, audience.muted userId = s.mutes userId appealId
  online : ∃ found opened s, C found ∧ C opened ∧ C s ∧ ∀ userId, audience.online userId =
    (opened.redisOpen && (found.users.rows.map (·.id)).contains userId && s.isOnline userId)
  telegramUsers : ∃ s, C s ∧ audience.telegramUsers = s.users.rows
  maxUsers : ∃ s, C s ∧ audience.maxUsers = s.users.rows

theorem audienceMessages_of_nobody (nobody : uniqIds payload = []) (audience : Audience) :
    audienceMessages env payload audience = [] := by
  have none_receives (channel : NotificationChannel) : receivers env payload audience channel = [] := by
    simp [receivers, nobody]
  have none_told (text : Option String) (chatId : NotifiedUser → Option Int)
      (message : InfoMessage → OutgoingMessage) : infoMessages text chatId message [] = [] := by
    unfold infoMessages
    split <;> rfl
  simp [audienceMessages, none_receives, none_told]

theorem infoMessages_congr {chatId : NotifiedUser → Option Int}
    {message : InfoMessage → OutgoingMessage} {users others : List NotifiedUser}
    (same : isGiven text = true → users = others) :
    infoMessages text chatId message users = infoMessages text chatId message others := by
  by_cases given : isGiven text = true
  · rw [same given]
  · rw [infoMessages_of_not_given given, infoMessages_of_not_given given]

theorem nobody_told (some_moment : C t) (nobody : uniqIds payload = []) :
    ∃ audience : Audience, audience.Met payload.appealId C ∧
      [] = audienceMessages env payload audience :=
  ⟨⟨t.shown, fun userId => t.mutes userId payload.appealId, fun userId => t.redisOpen &&
      (t.users.rows.map (·.id)).contains userId && t.isOnline userId, t.users.rows, t.users.rows⟩,
    ⟨⟨t, some_moment, fun _ => rfl⟩, ⟨t, some_moment, fun _ => rfl⟩,
      ⟨t, t, t, some_moment, some_moment, some_moment, fun _ => rfl⟩, ⟨t, some_moment, rfl⟩,
      ⟨t, some_moment, rfl⟩⟩,
    (audienceMessages_of_nobody nobody _).symm⟩

theorem dispatchNotification_yields (some_moment : C t) (mutesFirst : Bool) :
    (dispatchNotification env payload mutesFirst).Yields C fun writes _ =>
      ∃ audience : Audience, audience.Met payload.appealId C ∧
        writes.flatMap NotifyWrite.messages = audienceMessages env payload audience := by
  unfold dispatchNotification
  split
  · next nobody => exact nobody_told some_moment (by simp [uniqIds, nobody])
  split
  · next nobody => exact nobody_told some_moment nobody
  refine readSettingsAndMutes_yields some_moment fun s muting here there => ?_
  refine getOnlineUsersSet_yields some_moment
    fun online found opened marked at_users at_open at_marks same => ?_
  refine messengerUsers_yields some_moment fun telegramUsers s₁ here₁ rows₁ => ?_
  refine messengerUsers_yields some_moment fun maxUsers s₂ here₂ rows₂ => ?_
  intro _ _
  generalize parts : (⟨s.shown, fun userId => muting.mutes userId payload.appealId, fun userId =>
    opened.redisOpen && (found.users.rows.map (·.id)).contains userId && marked.isOnline userId,
    s₁.users.rows, s₂.users.rows⟩ : Audience) = audience
  have met : audience.Met payload.appealId C := by
    subst parts
    exact ⟨⟨s, here, fun _ => rfl⟩, ⟨muting, there, fun _ => rfl⟩,
      ⟨found, opened, marked, at_users, at_open, at_marks, fun _ => rfl⟩, ⟨s₁, here₁, rfl⟩,
      ⟨s₂, here₂, rfl⟩⟩
  have final (channel : NotificationChannel)
      (asked : ∀ userId ∈ candidates payload s.settings
        (fun userId => payload.respectMute && muting.mutes userId payload.appealId) channel,
          online userId = audience.online userId) :
      finalIds env payload online channel (candidates payload s.settings
        (fun userId => payload.respectMute && muting.mutes userId payload.appealId) channel) =
          receivers env payload audience channel := by
    subst parts
    exact finalIds_eq (fun _ => rfl) (fun _ => rfl) asked
  have known : ∀ channel, ∀ userId ∈ candidates payload s.settings
      (fun userId => payload.respectMute && muting.mutes userId payload.appealId) channel,
        online userId = audience.online userId := by
    intro channel userId candidate
    subst parts
    refine same userId (List.mem_eraseDups.mpr ?_)
    cases channel <;> simp [candidate]
  refine sendInfo_yields (P := fun sent => ∃ audience : Audience,
    audience.Met payload.appealId C ∧ _ ++ sent = audienceMessages env payload audience)
      (sendInfo_yields (P := fun sent => ∃ audience : Audience,
        audience.Met payload.appealId C ∧ _ ++ (_ ++ sent) = audienceMessages env payload audience)
          ⟨audience, met, ?_⟩)
  rw [final .push (known .push), audienceMessages, List.append_assoc, List.flatMap_nil,
    List.append_nil]
  congr 1
  have telegram : isGiven payload.telegramText = true → telegramUsers =
      audience.telegramUsers.filter fun user =>
        (receivers env payload audience .telegram).contains user.id := by
    intro given
    rw [rows₁ given, final .telegram (known .telegram)]
    subst parts
    rfl
  have max : isGiven payload.maxText = true → maxUsers = audience.maxUsers.filter fun user =>
      (receivers env payload audience .max).contains user.id := by
    intro given
    rw [rows₂ given, final .max (known .max)]
    subst parts
    rfl
  rw [infoMessages_congr telegram, infoMessages_congr max]

theorem Audience.Met.moments {audience : Audience} {appealId : Nat}
    (met : audience.Met appealId C) {db : NotifyState} {moment : List NotifyWrite → Prop}
    (seen : ∀ t, C t → ∃ past, moment past ∧ t = stateAfter env db past) :
    audience.At env appealId db moment where
  wished := by
    obtain ⟨s, here, wished⟩ := met.wished
    obtain ⟨past, at_past, rfl⟩ := seen s here
    refine ⟨past, at_past, fun userId setting => ?_⟩
    rw [wished, shown_stateAfter]
  muted := by
    obtain ⟨s, here, muted⟩ := met.muted
    obtain ⟨past, at_past, rfl⟩ := seen s here
    refine ⟨past, at_past, fun userId => ?_⟩
    rw [muted, mutes_stateAfter]
  online := by
    obtain ⟨found, opened, s, at_users, at_open, at_marks, online⟩ := met.online
    obtain ⟨past, at_past, rfl⟩ := seen found at_users
    obtain ⟨later, at_later, rfl⟩ := seen opened at_open
    obtain ⟨last, at_last, rfl⟩ := seen s at_marks
    exact ⟨past, later, last, at_past, at_later, at_last, online⟩
  telegramUsers := by
    obtain ⟨s, here, rows⟩ := met.telegramUsers
    obtain ⟨past, at_past, rfl⟩ := seen s here
    exact ⟨past, at_past, rows⟩
  maxUsers := by
    obtain ⟨s, here, rows⟩ := met.maxUsers
    obtain ⟨past, at_past, rfl⟩ := seen s here
    exact ⟨past, at_past, rows⟩

end Course

section Runs
variable (env : NotifyEnv)

abbrev NotifySystem := System NotifyState NotifyWrite NotifyReply

def notifyStep : NotifySystem → Action NotifyRequest → NotifySystem :=
  step (NotifyWrite.apply env) (notifyJob env)

/-- The writes before a moment in the course of what comes after the first actions. -/
def InCourse (db : NotifyState) (first later : List (Action NotifyRequest))
    (past : List NotifyWrite) : Prop :=
  ∃ early late, later = early ++ late ∧
    past = written (NotifyWrite.apply env) (notifyJob env) (System.start db) (first ++ early)

/-- However the requests run in each other's course: a dispatch that has come to its end has sent,
once each, the messages to those who by their own last words wanted them and had not muted the
appeal, each word taken at a moment in the course of the dispatch, and to nobody else. -/
theorem dispatch_by_last_words (db : NotifyState) (before later : List (Action NotifyRequest))
    (n : Nat) (payload : NotificationPayload) (mutesFirst : Bool)
    (free : (run (notifyStep env) (System.start db) before).jobs n = none)
    (spared : ∀ a ∈ later, a.Spares n)
    (ended : (run (notifyStep env) (System.start db)
      (before ++ .begin n (.dispatch payload mutesFirst) :: later)).jobs n = none) :
    ∃ audience : Audience,
      audience.At env payload.appealId db
        (InCourse env db (before ++ [.begin n (.dispatch payload mutesFirst)]) later) ∧
      (writesBy (NotifyWrite.apply env) (notifyJob env) n
        (run (notifyStep env) (System.start db)
          (before ++ [.begin n (.dispatch payload mutesFirst)])) later).flatMap
            NotifyWrite.messages = audienceMessages env payload audience ∧
      ∀ channel, (receivers env payload audience channel).Nodup := by
  rw [run_append] at ended
  obtain ⟨_, audience, met, told⟩ := course_rule free spared ended
    (dispatchNotification_yields ⟨[], later, rfl, rfl⟩ mutesFirst)
  refine ⟨audience, met.moments ?_, ?_, fun _ => (nodup_eraseDups _).filter _⟩
  · rintro t ⟨early, late, parts, rfl⟩
    refine ⟨_, ⟨early, late, parts, rfl⟩, ?_⟩
    have seen : (run (notifyStep env) (System.start db)
        (before ++ [.begin n (.dispatch payload mutesFirst)] ++ early)).shared = _ :=
      run_shared (System.start db) _
    rw [run_append, run_append] at seen
    exact seen
  · rw [run_append]
    exact told

def twoUsers : UserTable := ⟨[⟨1, some 11, none⟩, ⟨2, some 12, some 22⟩], by decide⟩

def quietDesk : NotifyState := ⟨fun _ => none, fun _ _ => false, [7], twoUsers, fun _ => none, true, 0⟩

def quietEnv : NotifyEnv := ⟨"", "", "", 90⟩

def newMessage : NotificationPayload :=
  ⟨.newMessage, 7, 1, "", "", some "text", some "text", [], [.push, .telegram, .max], [1, 2, 3], some 3, true⟩

/-- User 1 has switched off push for messages; user 2 mutes the appeal when the dispatch has
looked. -/
theorem dispatch_beside_mute : ∃ audience : Audience,
    audience.At quietEnv 7 quietDesk (InCourse quietEnv quietDesk
      ([.begin 0 (.patchSettings 1 (some [(.pushNewMessage, false)])), .step 0, .step 0] ++
        [.begin 1 (.dispatch newMessage true)])
      ([.step 1, .begin 2 (.muteAppeal 2 (some 7)), .step 2, .step 2] ++
        List.replicate 10 (.step 1))) ∧
    (writesBy (NotifyWrite.apply quietEnv) (notifyJob quietEnv) 1
      (run (notifyStep quietEnv) (System.start quietDesk)
        ([.begin 0 (.patchSettings 1 (some [(.pushNewMessage, false)])), .step 0, .step 0] ++
          [.begin 1 (.dispatch newMessage true)]))
      ([.step 1, .begin 2 (.muteAppeal 2 (some 7)), .step 2, .step 2] ++
        List.replicate 10 (.step 1))).flatMap NotifyWrite.messages =
          audienceMessages quietEnv newMessage audience ∧
    ∀ channel, (receivers quietEnv newMessage audience channel).Nodup :=
  dispatch_by_last_words quietEnv quietDesk _ _ 1 newMessage true rfl
    (by simp [Action.Spares]) rfl

end Runs

end LeaderProduct
