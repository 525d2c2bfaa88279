import LocaleLint.Style
import LocaleLint.Warning

namespace LocaleLint.Report

def line (t : Text) : Text := t ++ ['\n']

def heading (colour : Bool) (locale : Text) : Text :=
  line [] ++ line (Style.bold.paint colour ('[' :: locale ++ [']']))

structure Body where
  seen : List Text := []
  /-- The parts written for the single warnings, the latest first. -/
  parts : List Text := []

/-- Writes a warning, for people under the heading of its locale if that is new. -/
def Body.add (colour : Bool) (v : Verbosity) (b : Body) (w : Warning) : Body :=
  let head := if v = .human && !b.seen.contains w.locale then heading colour w.locale else []
  ⟨w.locale :: b.seen, (head ++ line (w.render v)) :: b.parts⟩

def body (colour : Bool) (v : Verbosity) (ws : List Warning) : Text :=
  (ws.foldl (Body.add colour v) {}).parts.reverse.flatten

def ofWarnings (colour : Bool) (v : Verbosity) (ws : List Warning) : Text :=
  if v = .silent then []
  else if ws.isEmpty then line (Style.green.paint (colour && v = .human) "OK".toList)
  else line "Finished with warnings".toList ++ body colour v ws

def ofFatal (colour : Bool) (v : Verbosity) (message : Text) : Text :=
  if v = .silent then []
  else
    line (Style.boldRed.paint (colour && v = .human) "[FATAL]".toList ++ ' ' :: message)

end LocaleLint.Report
