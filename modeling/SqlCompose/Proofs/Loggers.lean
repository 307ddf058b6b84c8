import SqlCompose.Session.Client
import Mathlib.Data.List.Induction

/-!
# Loggers of configured clients

A client gets its settings one after another, and each replaces what the ones before it said. A
configuration replaces the logger too: a logger of the program stays only if no configuration is set
after it.
-/

namespace SqlCompose

/-- One setting of a configured client. -/
inductive Setting where
  | config (c : Config)
  | logger (l : Logger)
  | queryTimeout (d : Duration)

namespace Setting

def config? : Setting → Option Config
  | config c => some c
  | _ => none

def logger? : Setting → Option Logger
  | logger l => some l
  | _ => none

def queryTimeout? : Setting → Option Duration
  | queryTimeout d => some d
  | _ => none

variable {α : Type} (kind : Setting → Option α)

/-- The latest setting of a kind. -/
def latest? (settings : List Setting) : Option α := settings.reverse.findSome? kind

/-- The settings after the latest of a kind, from the last one back. -/
def sinceLatest (settings : List Setting) : List Setting :=
  settings.reverse.takeWhile fun x => (kind x).isNone

theorem latest?_concat (settings : List Setting) (x : Setting) :
    latest? kind (settings ++ [x]) = (kind x).or (latest? kind settings) := by
  rw [latest?, List.reverse_concat, List.findSome?_cons]
  cases kind x <;> rfl

theorem sinceLatest_concat (settings : List Setting) (x : Setting) :
    sinceLatest kind (settings ++ [x]) =
      if (kind x).isNone then x :: sinceLatest kind settings else [] := by
  rw [sinceLatest, List.reverse_concat, List.takeWhile_cons]
  rfl

/-- The configuration that was asked for: the latest one, with the time that was set after it. -/
def requestedConfig (settings : List Setting) : Config :=
  let config := (latest? config? settings).getD .initial
  match (sinceLatest config? settings).findSome? queryTimeout? with
  | some d => config.withQueryTimeout d
  | none => config

/-- The logger that was asked for: the latest one, and without any the default logger. -/
def requestedLogger (settings : List Setting) : Logger :=
  (latest? logger? settings).getD (.events (requestedConfig settings).level)

/-- Whether a configuration was set after the latest logger. -/
def overridden (settings : List Setting) : Bool :=
  (sinceLatest logger? settings).any fun x => (config? x).isSome

theorem requestedConfig_config (settings : List Setting) (c : Config) :
    requestedConfig (settings ++ [config c]) = c := by
  rw [requestedConfig, latest?_concat, sinceLatest_concat]
  rfl

theorem requestedConfig_logger (settings : List Setting) (l : Logger) :
    requestedConfig (settings ++ [logger l]) = requestedConfig settings := by
  rw [requestedConfig, latest?_concat, sinceLatest_concat]
  rfl

theorem requestedConfig_queryTimeout (settings : List Setting) (d : Duration) :
    requestedConfig (settings ++ [queryTimeout d]) =
      (requestedConfig settings).withQueryTimeout d := by
  rw [requestedConfig, latest?_concat, sinceLatest_concat, requestedConfig]
  cases (sinceLatest config? settings).findSome? queryTimeout? <;> rfl

theorem overridden_config (settings : List Setting) (c : Config) :
    overridden (settings ++ [config c]) = true := by
  rw [overridden, sinceLatest_concat]
  rfl

theorem overridden_logger (settings : List Setting) (l : Logger) :
    overridden (settings ++ [logger l]) = false := by
  rw [overridden, sinceLatest_concat]
  rfl

theorem overridden_queryTimeout (settings : List Setting) (d : Duration) :
    overridden (settings ++ [queryTimeout d]) = overridden settings := by
  rw [overridden, sinceLatest_concat]
  rfl

end Setting

namespace Db

open Setting

variable (client : Client) (clock : Duration → String)

/-- Makes a setting. -/
def set (db : Db) : Setting → Db
  | .config c => db.withConfig c
  | .logger l => db.withLogger l
  | .queryTimeout d => db.withQueryTimeout d

/-- A new client with some settings, made in their order. -/
def withSettings (settings : List Setting) : Db := settings.foldl set (ofClient client clock)

theorem withSettings_concat (settings : List Setting) (x : Setting) :
    withSettings client clock (settings ++ [x]) = (withSettings client clock settings).set x := by
  rw [withSettings, List.foldl_append]
  rfl

theorem config_withSettings (settings : List Setting) :
    (withSettings client clock settings).config = requestedConfig settings := by
  induction settings using List.reverseRecOn with
  | nil => rfl
  | append_singleton settings x ih =>
      rw [withSettings_concat]
      cases x with
      | config c => exact (requestedConfig_config settings c).symm
      | logger l => exact ih.trans (requestedConfig_logger settings l).symm
      | queryTimeout d =>
          rw [requestedConfig_queryTimeout, ← ih]
          rfl

/-- A configuration that comes after the logger puts the default logger in its place. -/
theorem logger_withSettings (settings : List Setting) :
    (withSettings client clock settings).logger =
      if overridden settings then .events (requestedConfig settings).level
      else requestedLogger settings := by
  induction settings using List.reverseRecOn with
  | nil => rfl
  | append_singleton settings x ih =>
      rw [withSettings_concat]
      cases x with
      | config c =>
          rw [overridden_config, requestedConfig_config]
          rfl
      | logger l =>
          rw [overridden_logger, requestedLogger, latest?_concat]
          rfl
      | queryTimeout d =>
          rw [overridden_queryTimeout, requestedLogger, requestedConfig_queryTimeout,
            latest?_concat]
          exact ih

/-- After any settings, the configuration is the one that was asked for. The logger is the one that
was asked for unless a configuration came after it, and it is not the default logger as well. -/
theorem logger_kept_iff (settings : List Setting) :
    (withSettings client clock settings).config = requestedConfig settings ∧
    ((withSettings client clock settings).logger = requestedLogger settings ↔
      (overridden settings = true →
        requestedLogger settings = .events (requestedConfig settings).level)) := by
  refine ⟨config_withSettings client clock settings, ?_⟩
  rw [logger_withSettings]
  cases overridden settings with
  | true => exact ⟨fun heq _ => heq.symm, fun heq => (heq rfl).symm⟩
  | false => exact ⟨fun _ hover => absurd hover Bool.false_ne_true, fun _ => rfl⟩

/-- A configuration set after a logger drops it. -/
example (b : Built) :
    (withSettings client clock [.logger .recording, .config .initial]).logStatement b =
      [.emitted .debug [("call_depth", .number 2),
        ("message", .text (Config.initial.statementLine b))]] := rfl

end Db

end SqlCompose
