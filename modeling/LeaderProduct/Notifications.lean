import LeaderProduct.InsertionMap
import LeaderProduct.JsString
import LeaderProduct.Order
import LeaderProduct.RequestCourse

/-! The notifications about appeals: the switches by which users say what they want on which
channel, the mutes of single appeals, and the dispatch, which asks the database several times before
it sends anything. -/
namespace LeaderProduct
open Interleaving Transition

section Model

inductive NotificationSetting where
  | inAppNotificationsEnabled | telegramNotificationsEnabled | maxNotificationsEnabled
  | pushNewMessage | pushStatusChanged | pushDeadlineChanged
  | telegramNewAppeal | telegramStatusChanged | telegramDeadlineChanged
  | telegramUnreadReminder | telegramClosureReminder | telegramNewMessage
  | maxNewAppeal | maxStatusChanged | maxDeadlineChanged
  | maxUnreadReminder | maxClosureReminder | maxNewMessage
  deriving DecidableEq, Repr

abbrev NotificationSettings := NotificationSetting → Bool

def defaultSettings : NotificationSettings := fun _ => true

inductive AppealNotificationType where
  | newAppeal | statusChanged | deadlineChanged | newMessage | unreadReminder | closureReminder

def AppealNotificationType.name : AppealNotificationType → String
  | .newAppeal => "NEW_APPEAL"
  | .statusChanged => "STATUS_CHANGED"
  | .deadlineChanged => "DEADLINE_CHANGED"
  | .newMessage => "NEW_MESSAGE"
  | .unreadReminder => "UNREAD_REMINDER"
  | .closureReminder => "CLOSURE_REMINDER"

inductive NotificationChannel where
  | push | telegram | max
  deriving DecidableEq, Repr

inductive PushField where
  | text (value : String)
  | number (value : Nat)

structure NotificationPayload where
  type : AppealNotificationType
  appealId : Nat
  appealNumber : Nat
  title : String
  body : String
  telegramText : Option String
  maxText : Option String
  pushData : List (String × PushField)
  channels : List NotificationChannel
  recipientUserIds : List Nat
  excludeSenderUserId : Option Nat
  respectMute : Bool

structure PushMessage where
  title : String
  body : String
  data : InsertionMap String PushField
  sound : String
  channelId : String

structure InfoMessage where
  chatId : Int
  text : String
  parseMode : String
  disableLinkPreview : Bool

inductive OutgoingMessage where
  | push (userId : Nat) (message : PushMessage)
  | telegram (message : InfoMessage)
  | max (message : InfoMessage)

structure NotifiedUser where
  id : Nat
  telegramId : Option Int
  maxId : Option Int

structure UserTable where
  rows : List NotifiedUser
  distinct : (rows.map (·.id)).Nodup

structure NotifyState where
  settings : Nat → Option NotificationSettings
  mutes : Nat → Nat → Bool
  appeals : List Nat
  users : UserTable
  onlineUntil : Nat → Option Instant
  redisOpen : Bool
  now : Instant

inductive NotifyWrite where
  | saveSettings (userId : Nat) (data : List (NotificationSetting × Bool))
  | mute (userId appealId : Nat)
  | unmute (userId appealId : Nat)
  | send (messages : List OutgoingMessage)
  | markUserOnline (userId : Nat)
  | markUserOffline (userId : Nat)
  | appeal (id : Nat)
  | users (table : UserTable)
  | redis (isOpen : Bool)
  | wait (milliseconds : Nat)

inductive NotifyReply where
  | settings (row : NotificationSettings)
  | muted (muted : Bool)
  | refused (status : Nat) (message : String)
  | done

structure NotifyEnv where
  telegramSuppressOnlineTypes : String
  maxSuppressOnlineTypes : String
  telegramSuppressOnlineNewMessage : String
  presenceTtlSec : Nat

/-- Requests, and what else happens to the tables and to Redis. `parsed` is the body, unless the
schema refuses it, `appealId` the number in the path, if it is a positive integer. In a dispatch two
questions go out together; `mutesFirst` tells which one the database takes first. -/
inductive NotifyRequest where
  | getSettings (userId : Nat)
  | patchSettings (userId : Nat) (parsed : Option (List (NotificationSetting × Bool)))
  | getMute (userId : Nat) (appealId : Option Nat)
  | muteAppeal (userId : Nat) (appealId : Option Nat)
  | unmuteAppeal (userId : Nat) (appealId : Option Nat)
  | dispatch (payload : NotificationPayload) (mutesFirst : Bool)
  | markUserOnline (userId : Nat)
  | markUserOffline (userId : Nat)
  | appeal (id : Nat)
  | users (table : UserTable)
  | redis (isOpen : Bool)
  | wait (milliseconds : Nat)

abbrev NotifyJob := Job NotifyState NotifyWrite NotifyReply

end Model

section Dispatch
variable (env : NotifyEnv) (payload : NotificationPayload)

def resolveTypePush (type : AppealNotificationType) (s : NotificationSettings) : Bool :=
  match type with
  | .newMessage => s .pushNewMessage
  | .statusChanged => s .pushStatusChanged
  | .deadlineChanged => s .pushDeadlineChanged
  | _ => true

def resolveTypeTelegram (type : AppealNotificationType) (s : NotificationSettings) : Bool :=
  match type with
  | .newAppeal => s .telegramNewAppeal
  | .statusChanged => s .telegramStatusChanged
  | .deadlineChanged => s .telegramDeadlineChanged
  | .unreadReminder => s .telegramUnreadReminder
  | .closureReminder => s .telegramClosureReminder
  | .newMessage => s .telegramNewMessage

def resolveTypeMax (type : AppealNotificationType) (s : NotificationSettings) : Bool :=
  match type with
  | .newAppeal => s .maxNewAppeal
  | .statusChanged => s .maxStatusChanged
  | .deadlineChanged => s .maxDeadlineChanged
  | .unreadReminder => s .maxUnreadReminder
  | .closureReminder => s .maxClosureReminder
  | .newMessage => s .maxNewMessage

def listedTypes (raw : String) : List String :=
  ((raw.splitOn ",").map fun v => JsString.toUpperCase (JsString.trim v)).filter (· ≠ "")

/-- The source asks it of the two messengers only; push always leaves out who is online. -/
def shouldSuppressForOnline (channel : NotificationChannel) (type : AppealNotificationType) : Bool :=
  match channel with
  | .push => true
  | .max =>
    let maxRaw := JsString.trim env.maxSuppressOnlineTypes
    if maxRaw = "" then false else (listedTypes maxRaw).contains type.name
  | .telegram =>
    let raw := JsString.trim env.telegramSuppressOnlineTypes
    if raw ≠ "" then (listedTypes raw).contains type.name
    else
      match type with
      | .newMessage =>
        (if env.telegramSuppressOnlineNewMessage = "" then "1"
          else env.telegramSuppressOnlineNewMessage) ≠ "0"
      | .statusChanged | .deadlineChanged => true
      | _ => false

def globalOn (channel : NotificationChannel) (s : NotificationSettings) : Bool :=
  match channel with
  | .push => s .inAppNotificationsEnabled
  | .telegram => s .telegramNotificationsEnabled
  | .max => s .maxNotificationsEnabled

def typeOn (channel : NotificationChannel) (type : AppealNotificationType)
    (s : NotificationSettings) : Bool :=
  match channel with
  | .push => resolveTypePush type s
  | .telegram => resolveTypeTelegram type s
  | .max => resolveTypeMax type s

def uniqIds : List Nat :=
  (payload.recipientUserIds.filter fun id => some id ≠ payload.excludeSenderUserId).eraseDups

/-- The ids that the loop collects for the channel. -/
def candidates (settingsMap : Nat → Option NotificationSettings) (mutedSet : Nat → Bool)
    (channel : NotificationChannel) : List Nat :=
  (uniqIds payload).filter fun userId =>
    !mutedSet userId && payload.channels.contains channel &&
      ((settingsMap userId).map (globalOn channel)).getD true &&
      ((settingsMap userId).map (typeOn channel payload.type)).getD true

def finalIds (online : Nat → Bool) (channel : NotificationChannel) (ids : List Nat) : List Nat :=
  if shouldSuppressForOnline env channel payload.type then ids.filter fun id => !online id else ids

def pushMessage : PushMessage where
  title := payload.title
  body := payload.body
  data := payload.pushData.foldl (fun data field => data.set field.1 field.2)
    (((InsertionMap.empty.set "type" (.text payload.type.name)).set "appealId"
      (.number payload.appealId)).set "appealNumber" (.number payload.appealNumber))
  sound := "default"
  channelId := "appeal-message"

def infoMessage (text : String) (chatId : Int) : InfoMessage := ⟨chatId, text, "HTML", true⟩

def readSettingsAndMutes (mutesFirst : Bool)
    (next : (Nat → Option NotificationSettings) → (Nat → Bool) → NotifyJob) : NotifyJob :=
  if !payload.respectMute then .read fun s => next s.settings fun _ => false
  else if mutesFirst then
    .read fun muting => .read fun s => next s.settings fun userId => muting.mutes userId payload.appealId
  else
    .read fun s => .read fun muting => next s.settings fun userId => muting.mutes userId payload.appealId

def NotifyState.isOnline (s : NotifyState) (userId : Nat) : Bool :=
  (s.onlineUntil userId).any fun expiresAt => s.now < expiresAt

/-- `getPresenceForUsers` is in it: the users first, then Redis, if it is open. -/
def getOnlineUsersSet (userIds : List Nat) (next : (Nat → Bool) → NotifyJob) : NotifyJob :=
  if userIds = [] then next fun _ => false
  else
    .read fun found => .read fun opened =>
      if opened.redisOpen then
        .read fun s => next fun userId =>
          userIds.contains userId && (found.users.rows.map (·.id)).contains userId && s.isOnline userId
      else next fun _ => false

def isGiven (text : Option String) : Bool := text.any (· ≠ "")

def messengerUsers (ids : List Nat) (text : Option String) (next : List NotifiedUser → NotifyJob) :
    NotifyJob :=
  if ids ≠ [] ∧ isGiven text then
    .read fun s => next (s.users.rows.filter fun user => ids.contains user.id)
  else next []

def sendInfo (text : Option String) (chatId : NotifiedUser → Option Int)
    (message : InfoMessage → OutgoingMessage) (users : List NotifiedUser) (next : NotifyJob) :
    NotifyJob :=
  match text.filter (· ≠ "") with
  | none => next
  | some text =>
    .write (.send ((users.filterMap chatId).map fun id => message (infoMessage text id))) fun _ => next

/-- A failing message does not keep the others back, so what comes of them is left out. -/
def dispatchNotification (mutesFirst : Bool) : NotifyJob :=
  if payload.recipientUserIds = [] then .done .done
  else if uniqIds payload = [] then .done .done
  else
    readSettingsAndMutes payload mutesFirst fun settingsMap mutedSet =>
      let pushCandidates := candidates payload settingsMap mutedSet .push
      let telegramCandidates := candidates payload settingsMap mutedSet .telegram
      let maxCandidates := candidates payload settingsMap mutedSet .max
      getOnlineUsersSet (pushCandidates ++ telegramCandidates ++ maxCandidates).eraseDups
        fun onlineSet =>
          let finalPushIds := finalIds env payload onlineSet .push pushCandidates
          let finalTelegramIds := finalIds env payload onlineSet .telegram telegramCandidates
          let finalMaxIds := finalIds env payload onlineSet .max maxCandidates
          messengerUsers finalTelegramIds payload.telegramText fun telegramUsers =>
            messengerUsers finalMaxIds payload.maxText fun maxUsers =>
              .write (.send (finalPushIds.map fun userId => .push userId (pushMessage payload)))
                fun _ =>
                  sendInfo payload.telegramText NotifiedUser.telegramId .telegram telegramUsers
                    (sendInfo payload.maxText NotifiedUser.maxId .max maxUsers (.done .done))

end Dispatch

section Requests
variable (env : NotifyEnv)

def savedSettings (row : Option NotificationSettings) (data : List (NotificationSetting × Bool)) :
    NotificationSettings :=
  match row with
  | none => fun setting => (data.lookup setting).getD (defaultSettings setting)
  | some row => fun setting => (data.lookup setting).getD (row setting)

def NotifyWrite.apply (w : NotifyWrite) (s : NotifyState) : NotifyState :=
  match w with
  | .saveSettings userId data =>
    { s with
      settings := Function.update s.settings userId (some (savedSettings (s.settings userId) data)) }
  | .mute userId appealId =>
    { s with mutes := Function.update s.mutes userId (Function.update (s.mutes userId) appealId true) }
  | .unmute userId appealId =>
    { s with mutes := Function.update s.mutes userId (Function.update (s.mutes userId) appealId false) }
  | .send _ => s
  | .markUserOnline userId =>
    { s with
      onlineUntil := Function.update s.onlineUntil userId
        (some (s.now + env.presenceTtlSec * 1000)) }
  | .markUserOffline userId => { s with onlineUntil := Function.update s.onlineUntil userId none }
  | .appeal id => { s with appeals := id :: s.appeals }
  | .users table => { s with users := table }
  | .redis isOpen => { s with redisOpen := isOpen }
  | .wait milliseconds => { s with now := s.now + milliseconds }

def wrongAppealId : NotifyReply := .refused 400 "Некорректный appealId"

def getSettings (userId : Nat) : NotifyJob :=
  .read fun s => .done (.settings ((s.settings userId).getD defaultSettings))

def patchSettings (userId : Nat) (parsed : Option (List (NotificationSetting × Bool))) : NotifyJob :=
  match parsed with
  | none => .done (.refused 400 "Ошибка валидации")
  | some [] => .done (.refused 400 "Не передано ни одного поля")
  | some data =>
    .write (.saveSettings userId data) fun s =>
      .done (.settings (savedSettings (s.settings userId) data))

def getMute (userId : Nat) (appealId : Option Nat) : NotifyJob :=
  match appealId with
  | none => .done wrongAppealId
  | some appealId => .read fun s => .done (.muted (s.mutes userId appealId))

def muteAppeal (userId : Nat) (appealId : Option Nat) : NotifyJob :=
  match appealId with
  | none => .done wrongAppealId
  | some appealId =>
    .read fun s =>
      if s.appeals.contains appealId then .write (.mute userId appealId) fun _ => .done (.muted true)
      else .done (.refused 404 "Обращение не найдено")

def unmuteAppeal (userId : Nat) (appealId : Option Nat) : NotifyJob :=
  match appealId with
  | none => .done wrongAppealId
  | some appealId => .write (.unmute userId appealId) fun _ => .done (.muted false)

def markPresence (w : NotifyWrite) : NotifyJob :=
  .read fun s => if s.redisOpen then .write w fun _ => .done .done else .done .done

def notifyJob : NotifyRequest → NotifyJob
  | .getSettings userId => getSettings userId
  | .patchSettings userId parsed => patchSettings userId parsed
  | .getMute userId appealId => getMute userId appealId
  | .muteAppeal userId appealId => muteAppeal userId appealId
  | .unmuteAppeal userId appealId => unmuteAppeal userId appealId
  | .dispatch payload mutesFirst => dispatchNotification env payload mutesFirst
  | .markUserOnline userId => markPresence (.markUserOnline userId)
  | .markUserOffline userId => markPresence (.markUserOffline userId)
  | .appeal id => .write (.appeal id) fun _ => .done .done
  | .users table => .write (.users table) fun _ => .done .done
  | .redis isOpen => .write (.redis isOpen) fun _ => .done .done
  | .wait milliseconds => .write (.wait milliseconds) fun _ => .done .done

end Requests

end LeaderProduct
