namespace RocmCli
namespace Automation

/-!
# The automation settings

The watchers are built in; the config says which of them are enabled and how
much each may do on its own.  The stored `daemonEnabled` flag is kept in step
with the watchers by the commands, and no decision reads it.
-/

inductive WatcherMode where
  | observe
  | propose
  | contained
  deriving DecidableEq

structure BuiltinWatcherSpec where
  id : String
  defaultMode : WatcherMode
  deriving DecidableEq

def builtinWatchers : List BuiltinWatcherSpec :=
  [⟨"therock-update", .observe⟩,
   ⟨"server-recover", .contained⟩,
   ⟨"gpu-metrics", .observe⟩,
   ⟨"cache-warm", .propose⟩,
   ⟨"driver-upgrade", .propose⟩,
   ⟨"gpu-thermal-protect", .propose⟩]

def builtinWatcher (id : String) : Option BuiltinWatcherSpec :=
  builtinWatchers.find? (fun watcher => watcher.id == id)

theorem builtinWatcher_id {id : String} {spec : BuiltinWatcherSpec}
    (found : builtinWatcher id = some spec) : spec.id = id :=
  eq_of_beq (List.find?_some found :)

structure WatcherUserConfig where
  enabled : Bool
  mode : Option WatcherMode
  deriving DecidableEq

def WatcherUserConfig.default : WatcherUserConfig where
  enabled := false
  mode := none

/-- The automation part of the config; the watchers are a map by name. -/
structure AutomationsConfig where
  daemonEnabled : Bool
  watchers : List (String × WatcherUserConfig)

/-- Changes the entry of a watcher, which begins as the default one. -/
def watcherConfigMut (watcher : String) (change : WatcherUserConfig -> WatcherUserConfig)
    (watchers : List (String × WatcherUserConfig)) : List (String × WatcherUserConfig) :=
  if watchers.any (fun entry => entry.1 == watcher) then
    watchers.map (fun entry => if entry.1 = watcher then (entry.1, change entry.2) else entry)
  else watchers ++ [(watcher, change WatcherUserConfig.default)]

def AutomationsConfig.automationDaemonEnabled (config : AutomationsConfig) : Bool :=
  config.watchers.any (fun entry => entry.2.enabled)

def AutomationsConfig.watcherConfig (config : AutomationsConfig) (watcher : String) :
    Option WatcherUserConfig :=
  config.watchers.lookup watcher

def AutomationsConfig.watcherEnabled (config : AutomationsConfig) (watcher : BuiltinWatcherSpec) :
    Bool :=
  (config.watcherConfig watcher.id).any (·.enabled)

def AutomationsConfig.effectiveWatcherMode (config : AutomationsConfig)
    (watcher : BuiltinWatcherSpec) : WatcherMode :=
  ((config.watcherConfig watcher.id).bind (·.mode)).getD watcher.defaultMode

/-- `rocm automations enable`, up to the saved config. -/
def AutomationsConfig.enable (config : AutomationsConfig) (spec : BuiltinWatcherSpec)
    (mode : Option WatcherMode) : AutomationsConfig where
  daemonEnabled := true
  watchers := watcherConfigMut spec.id
    (fun entry => { enabled := true, mode := mode <|> entry.mode }) config.watchers

/-- `rocm automations disable`, up to the saved config. -/
def AutomationsConfig.disable (config : AutomationsConfig) (spec : BuiltinWatcherSpec) :
    AutomationsConfig :=
  let watchers := watcherConfigMut spec.id
    (fun entry => { entry with enabled := false }) config.watchers
  { daemonEnabled := watchers.any (fun entry => entry.2.enabled) && config.daemonEnabled,
    watchers }

/-! ## Enabled watchers -/

/-- The config has a watcher enabled under a name. -/
def AutomationsConfig.Enabled (config : AutomationsConfig) (watcher : String) : Prop :=
  exists entry, (watcher, entry) ∈ config.watchers ∧ entry.enabled = true

variable {config : AutomationsConfig} {watcher : String}

theorem automationDaemonEnabled_of_enabled (enabled : config.Enabled watcher) :
    config.automationDaemonEnabled = true := by
  rcases enabled with ⟨entry, listed, on⟩
  exact List.any_eq_true.mpr ⟨(watcher, entry), listed, on⟩

/-- A change of one watcher's entry leaves the others. -/
theorem mem_watcherConfigMut_of_ne {other : String} {entry : WatcherUserConfig}
    (change : WatcherUserConfig -> WatcherUserConfig)
    {watchers : List (String × WatcherUserConfig)} (apart : other ≠ watcher)
    (listed : (other, entry) ∈ watchers) :
    (other, entry) ∈ watcherConfigMut watcher change watchers := by
  unfold watcherConfigMut
  split
  · exact List.mem_map.mpr ⟨(other, entry), listed, if_neg apart⟩
  · exact List.mem_append_left _ listed

theorem exists_mem_watcherConfigMut (watcher : String)
    (change : WatcherUserConfig -> WatcherUserConfig)
    (watchers : List (String × WatcherUserConfig)) :
    exists entry, (watcher, change entry) ∈ watcherConfigMut watcher change watchers := by
  unfold watcherConfigMut
  by_cases known : watchers.any (fun entry => entry.1 == watcher) = true
  · rw [if_pos known]
    rcases List.any_eq_true.mp known with ⟨⟨name, entry⟩, listed, named⟩
    obtain rfl : name = watcher := eq_of_beq named
    exact ⟨entry, List.mem_map.mpr ⟨(name, entry), listed, if_pos rfl⟩⟩
  · rw [if_neg known]
    exact ⟨_, List.mem_append_right _ (List.mem_singleton_self _)⟩

theorem enabled_enable (config : AutomationsConfig) (spec : BuiltinWatcherSpec)
    (mode : Option WatcherMode) : (config.enable spec mode).Enabled spec.id := by
  rcases exists_mem_watcherConfigMut spec.id
    (fun entry => { enabled := true, mode := mode <|> entry.mode }) config.watchers
    with ⟨entry, listed⟩
  exact ⟨_, listed, rfl⟩

theorem AutomationsConfig.Enabled.enable (enabled : config.Enabled watcher)
    (spec : BuiltinWatcherSpec) (mode : Option WatcherMode) :
    (config.enable spec mode).Enabled watcher := by
  by_cases same : watcher = spec.id
  · rw [same]
    exact enabled_enable config spec mode
  · rcases enabled with ⟨entry, listed, on⟩
    have kept := mem_watcherConfigMut_of_ne
      (fun entry => { enabled := true, mode := mode <|> entry.mode }) same listed
    exact ⟨entry, kept, on⟩

theorem AutomationsConfig.Enabled.disable (enabled : config.Enabled watcher)
    {spec : BuiltinWatcherSpec} (apart : watcher ≠ spec.id) :
    (config.disable spec).Enabled watcher := by
  rcases enabled with ⟨entry, listed, on⟩
  have kept := mem_watcherConfigMut_of_ne (fun entry => { entry with enabled := false })
    apart listed
  exact ⟨entry, kept, on⟩

end Automation
end RocmCli
