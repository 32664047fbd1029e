import ActivityFeed.Policy
import ActivityFeed.Text.Blank

/-!
# Settings

How the service is set up: the policy for articles, two deadlines and two page sizes. Settings come
as texts by key, from the environment or elsewhere; what is not there keeps its usual value.

* `ActivityFeed.Settings` – the values, with their usual ones;
* `ActivityFeed.Setting` – the keys;
* `ActivityFeed.Settings.check` – the conditions that the values must satisfy together;
* `ActivityFeed.Settings.ofSource` – reads the settings from a source of texts.

The keys are read in a fixed order, and the first text that does not read is the error. Only when
all texts read are the conditions looked at, again in a fixed order.
-/

namespace ActivityFeed

/-- How the service is set up. -/
structure Settings where
  /-- How articles are pushed and pulled. -/
  policy : FanoutPolicy := {}
  /-- How long reading a page may take, in milliseconds. -/
  readTimeout : Nat := 3000
  /-- How long creating an event may take, in milliseconds. -/
  writeTimeout : Nat := 3000
  /-- The size of a page if the reader names none. -/
  defaultPageSize : Nat := 20
  /-- The largest page. -/
  maxPageSize : Nat := 200
  deriving DecidableEq, Repr, Inhabited

/-- The settings by their keys. -/
inductive Setting where
  /-- The largest number of followers to whom an article is pushed. -/
  | fanoutThreshold
  /-- The number of followed authors whose articles a reader pulls. -/
  | followeeLimit
  /-- The number of followers asked for when pushing. -/
  | pushFanoutLimit
  /-- How long reading a page may take. -/
  | readTimeout
  /-- How long creating an event may take. -/
  | writeTimeout
  /-- The size of a page if the reader names none. -/
  | defaultPageSize
  /-- The largest page. -/
  | maxPageSize
  deriving DecidableEq, Repr

namespace Setting

/-- The key of a setting. -/
def key : Setting → String
  | fanoutThreshold => "FEED_FANOUT_THRESHOLD"
  | followeeLimit => "FEED_FOLLOWEE_LIMIT"
  | pushFanoutLimit => "FEED_PUSH_FANOUT_LIMIT"
  | readTimeout => "FEED_READ_TIMEOUT_MS"
  | writeTimeout => "FEED_WRITE_TIMEOUT_MS"
  | defaultPageSize => "FEED_DEFAULT_PAGE_SIZE"
  | maxPageSize => "FEED_MAX_PAGE_SIZE"

/-- All settings, in the order in which they are read. -/
def all : List Setting :=
  [fanoutThreshold, followeeLimit, pushFanoutLimit, readTimeout, writeTimeout, defaultPageSize,
    maxPageSize]

/-- The values of a setting. -/
def range : Setting → Text.IntegerRange
  | fanoutThreshold => .signed64
  | _ => .unsigned64

/-- Puts a value into the settings. -/
def put : Setting → Int → Settings → Settings
  | fanoutThreshold, v, s => { s with policy := { s.policy with threshold := v } }
  | followeeLimit, v, s => { s with policy := { s.policy with followeeLimit := v.toNat } }
  | pushFanoutLimit, v, s => { s with policy := { s.policy with pushLimit := v.toNat } }
  | readTimeout, v, s => { s with readTimeout := v.toNat }
  | writeTimeout, v, s => { s with writeTimeout := v.toNat }
  | defaultPageSize, v, s => { s with defaultPageSize := v.toNat }
  | maxPageSize, v, s => { s with maxPageSize := v.toNat }

end Setting

/-- Why settings are refused. -/
inductive SettingFault where
  /-- The text of a setting is no integer of its range. -/
  | unreadable (setting : Setting) (text : String) (fault : Text.IntegerFault)
  /-- The largest page would be empty. -/
  | noPages
  /-- The policy is contradictory. -/
  | policy (error : FeedError)
  /-- The usual page is empty or larger than the largest. -/
  | usualPage (maxPageSize : Nat)
  deriving DecidableEq, Repr

namespace SettingFault

/-- The setting that is to blame. -/
def setting : SettingFault → Setting
  | unreadable setting _ _ => setting
  | noPages => .maxPageSize
  | policy _ => .pushFanoutLimit
  | usualPage _ => .defaultPageSize

/-- The wording of a fault. -/
def reason : SettingFault → String
  | unreadable _ text fault => "`" ++ text ++ "`: " ++ fault.message
  | noPages => "must be positive"
  | policy error => error.message?.getD ""
  | usualPage maxPageSize => "must be within 1..=" ++ natText maxPageSize

/-- The error that callers see. -/
def toError (f : SettingFault) : ServiceError := .setting f.setting.key f.reason

end SettingFault

namespace Settings

/-- The conditions on the values: there are pages, pushing reaches everybody up to the threshold,
and the usual page is one that may be asked for. -/
def check (s : Settings) : Except SettingFault Unit := do
  if s.maxPageSize = 0 then .error .noPages
  s.policy.validate.mapError .policy
  if s.defaultPageSize = 0 ∨ s.maxPageSize < s.defaultPageSize then
    .error (.usualPage s.maxPageSize)

/-- Reads one setting, if the source has it. -/
def readOne (source : String → Option String) (s : Settings) (k : Setting) :
    Except SettingFault Settings :=
  match source k.key with
  | none => .ok s
  | some text =>
    match Text.readInteger k.range (Text.trim text.toList) with
    | .ok v => .ok (k.put v s)
    | .error fault => .error (.unreadable k text fault)

/-- The settings of a source. -/
def ofSource (source : String → Option String) : Except SettingFault Settings := do
  let s ← Setting.all.foldlM (readOne source) {}
  s.check
  .ok s

end Settings

end ActivityFeed
