/-!
The ways in which a text can be spoken.
-/

namespace WorldScripts

inductive ChatType where
  | say
  | yell
  | textEmote
  | bossEmote
  | whisper
  | bossWhisper
  | zoneYell
  | zoneEmote
  deriving DecidableEq, Repr

namespace ChatType

def ofNumber? (n : UInt32) : Option ChatType :=
  match n.toNat with
  | 0 => some .say
  | 1 => some .yell
  | 2 => some .textEmote
  | 3 => some .bossEmote
  | 4 => some .whisper
  | 5 => some .bossWhisper
  | 6 => some .zoneYell
  | 7 => some .zoneEmote
  | _ => none

def name : ChatType → String
  | .say => "Say"
  | .yell => "Yell"
  | .textEmote => "TextEmote"
  | .bossEmote => "BossEmote"
  | .whisper => "Whisper"
  | .bossWhisper => "BossWhisper"
  | .zoneYell => "ZoneYell"
  | .zoneEmote => "ZoneEmote"

def isWhisper : ChatType → Bool
  | .whisper | .bossWhisper => true
  | _ => false

end ChatType

end WorldScripts
