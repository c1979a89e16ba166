import DatasetCatalog.CommandLine.Server
import DatasetCatalog.Proofs.Config.Printed
import DatasetCatalog.Proofs.Text.Utf8
import Mathlib.Control.Monad.Basic

/-!
# What the server prints

The configuration that `--print-config` prints is one that the server reads again, with everything
in it that was in effect (`printed_configuration_reads_back`). The options can only put in what a
text can say, so that a configuration which was read can still be written after them.
-/

namespace DatasetCatalog.CommandLine.Server

variable {o : Options}

theorem Options.writable_override {c : Config} (h : c.Writable) : (o.override c).Writable := h

theorem Options.config_eq_ok {d : Disk} {start : Config} (h : o.base d = .ok start)
    (usable : (o.override start).validate = .ok ()) : o.config d = .ok (o.override start) := by
  rw [config, h]
  change ((o.override start).validate.mapError _ >>= fun _ => _) = _
  rw [usable]
  rfl

/-- **The printed configuration reads back.** Whatever text a configuration was read from, and
whatever the options put over it, the text of the outcome is read as that outcome, if it can be used
at all. So is the output of the command, which has one more line break. -/
theorem printed_configuration_reads_back {text : String} {start c : Config}
    (accepted : Config.ofToml text = .ok start) (effective : o.override start = c)
    (usable : c.validate = .ok ()) :
    Config.ofToml c.toToml = .ok c ∧ Config.ofToml (c.toToml ++ "\n") = .ok c ∧
      ∀ {line : List String} {host : Storage.Host} {d : Disk},
        options line host.environment = .ok o → o.printConfig = true → o.base d = .ok start →
          run line host d = (.ended (.success (c.toToml ++ "\n")), d) := by
  subst effective
  -- the options name no number, so the limit is one that was read
  have writable := Config.writable_of_parse? (Config.ofToml_eq_ok.1 accepted).1
  obtain ⟨whole, printed⟩ := Config.ofToml_toToml (Options.writable_override writable) usable
  refine ⟨whole, printed, fun {line host d} understood print base => ?_⟩
  rw [run, understood]
  dsimp only
  rw [Options.config_eq_ok base usable]
  exact if_pos print

/-- A text whose strings have quotes, backslashes, control characters and line breaks, and with the
largest number there is. -/
def awkwardText : String :=
  "[logging]\nlevel = 'Warn'\n[catalog]\nnamespace = 'a\"b\\c'\ncatalog_dir = \"\\u0007\"\n" ++
    "[executor]\nop_timeout_secs = 9223372036854775807\nworker_args = [\"'''\", \"\\\"\\\"\\\"\\n\"]\n"

/-- A command line that overrules it. -/
def awkwardLine : List String := ["--config", "/config.toml", "--bind", "[::ffff:10.0.0.1%7]:80",
  "--log-level=TRACE", "--json-logs", "--unrecoverable-reset", "--print-config"]

def awkwardDisk : Disk := ⟨[(["config.toml"], .file (Utf8.encode awkwardText))], []⟩

def awkwardOptions : Options where
  file := some ⟨"/config.toml"⟩
  bind := some ⟨.groups ⟨[0, 0, 0, 0, 0, 0xffff, 0x0a00, 1], rfl⟩ 7, 80⟩
  level := some "TRACE"
  jsonLogs := true
  unrecoverableReset := true
  printConfig := true

def awkwardStart : Config where
  logging := { level := "Warn" }
  catalog := { «namespace» := "a\"b\\c", directory := some "\x07" }
  executor := { limit := 9223372036854775807, workerArguments := ["'''", "\"\"\"\n"] }

theorem awkward_configuration_reads_back :
    Config.ofToml awkwardText = .ok awkwardStart ∧
      (awkwardOptions.override awkwardStart).validate = .ok () ∧
      Config.ofToml (awkwardOptions.override awkwardStart).toToml =
        .ok (awkwardOptions.override awkwardStart) ∧
      run awkwardLine {} awkwardDisk =
        (.ended (.success ((awkwardOptions.override awkwardStart).toToml ++ "\n")), awkwardDisk) := by
  have accepted : Config.ofToml awkwardText = .ok awkwardStart := by decide +kernel
  have usable : (awkwardOptions.override awkwardStart).validate = .ok () := by decide +kernel
  have understood : options awkwardLine [] = .ok awkwardOptions := by decide +kernel
  have load : Config.load ⟨"/config.toml"⟩ awkwardDisk = .ok awkwardStart := by
    have content : awkwardDisk.content ⟨"/config.toml"⟩ = .ok (Utf8.encode awkwardText) := rfl
    have decoded : Utf8.decode? (Utf8.encode awkwardText) = some awkwardText :=
      congrArg Except.toOption (Utf8.decode_encode awkwardText)
    simp only [Config.load, content, decoded]
    exact accepted
  have base : awkwardOptions.base awkwardDisk = .ok awkwardStart :=
    congrArg (Except.mapError _) load
  obtain ⟨whole, _, printed⟩ := printed_configuration_reads_back accepted rfl usable
  exact ⟨accepted, usable, whole, printed understood rfl base⟩

end DatasetCatalog.CommandLine.Server
