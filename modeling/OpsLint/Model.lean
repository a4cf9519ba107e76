import OpsLint.Crontab.Basic
import OpsLint.Dockerfile.Basic
import OpsLint.Env.Basic
import OpsLint.FileKind
import OpsLint.Makefile.Basic
import OpsLint.Systemd.Basic

/-!
# Models

What has been read from a file of any of the five kinds. Reading records what is wrong with a file
along with what is right, so it succeeds on nearly every text: only a Dockerfile can defeat it.
-/

namespace OpsLint

/-- The content of a file. -/
inductive Model where
  | dockerfile (content : Dockerfile)
  | makefile (content : Makefile)
  | env (content : Env)
  | crontab (content : Crontab)
  | systemd (content : Systemd)

namespace Model

/-- The kind of file a model has been read from. -/
def kind : Model → FileKind
  | .dockerfile _ => .dockerfile
  | .makefile _ => .makefile
  | .env _ => .env
  | .crontab _ => .crontab
  | .systemd _ => .systemd

/-- What the reader found to be wrong. -/
def findings : Model → List Finding
  | .dockerfile d => d.findings
  | .makefile m => m.findings
  | .env e => e.findings
  | .crontab c => c.findings
  | .systemd u => u.findings

/-- Reads the lines of a file of a given kind. -/
def ofLines (kind : FileKind) (lines : List Text) : Except Dockerfile.ReadError Model :=
  match kind with
  | .dockerfile => (Dockerfile.ofLines lines).map .dockerfile
  | .makefile => .ok (.makefile (Makefile.ofLines lines))
  | .env => .ok (.env (Env.ofLines lines))
  | .crontab => .ok (.crontab (Crontab.ofLines lines))
  | .systemd => .ok (.systemd (Systemd.ofLines lines))

end Model

end OpsLint
