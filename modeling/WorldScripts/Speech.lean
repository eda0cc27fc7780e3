import WorldScripts.Texts
import WorldScripts.World.Apply

/-!
Speaking a text with the sound, the emote, the chat type and the language stored with it.
-/

namespace WorldScripts

namespace World

/-- Applies effects in order, up to the first one that is refused. -/
def applyAll (world : World) : List Effect → Except EffectError Unit × World
  | [] => (.ok (), world)
  | effect :: rest =>
      match world.apply effect with
      | (.error error, world) => (.error error, world)
      | (.ok (), world) => world.applyAll rest

end World

inductive TextError where
  | outOfRange (id : Int32)
  | missing (id : Int32)
  | needsPlayerTarget (id : Int32)
  | refused (error : EffectError)
  deriving DecidableEq

def TextError.message : TextError → String
  | .outOfRange id => s!"text id {id} is outside every text range"
  | .missing id => s!"text entry {id} not found"
  | .needsPlayerTarget id => s!"text entry {id} is a whisper but has no player target"
  | .refused error => error.message

def isPlayer (guid? : Option Guid) : Bool :=
  guid?.any fun guid => guid.kind == .player

/-- The effects of speaking a text: the sound first, if it has one, then the emote, if it has one
and the speaker is a unit, and last the words. -/
def TextEntry.performance (entry : TextEntry) (id : Int32) (speaker : Guid)
    (target : Option Guid) : List Effect :=
  (if entry.sound = 0 then [] else [.playSound speaker entry.sound none false]) ++
    (if entry.emote = 0 ∨ !speaker.kind.isUnit then [] else [.emote speaker entry.emote]) ++
    [.say speaker target id entry.chat entry.language]

namespace Texts

def script (texts : Texts) (id : Int32) (target : Option Guid) : Except TextError TextEntry :=
  match TextRange.ofId? id with
  | none => .error (.outOfRange id)
  | some _ =>
      match texts.find? id with
      | none => .error (.missing id)
      | some entry =>
          if entry.chat.isWhisper && !isPlayer target then .error (.needsPlayerTarget id)
          else .ok entry

def speak (texts : Texts) (id : Int32) (speaker : Guid) (target : Option Guid) (world : World) :
    Except TextError Unit × World :=
  match texts.script id target with
  | .error error => (.error error, world)
  | .ok entry =>
      let (result, world) := world.applyAll (entry.performance id speaker target)
      (result.mapError .refused, world)

end Texts

end WorldScripts
