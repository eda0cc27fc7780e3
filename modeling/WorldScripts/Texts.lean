import WorldScripts.Log
import WorldScripts.OrderedMap
import WorldScripts.Text.Chat
import WorldScripts.Text.Range

/-!
The texts that scripts speak, by their ids. Of several rows with one id the first usable one counts.
-/

namespace WorldScripts

structure TextRow where
  entry : Int32 := 0
  content : String := ""
  sound : UInt32 := 0
  chatType : UInt8 := 0
  language : UInt32 := 0
  emote : UInt32 := 0
  deriving DecidableEq

structure TextEntry where
  content : String
  sound : UInt32
  chat : ChatType
  language : UInt32
  emote : UInt32
  deriving DecidableEq

structure Texts where
  entries : OrderedMap Int32 TextEntry := .empty
  deriving DecidableEq

namespace Texts

instance : Inhabited Texts := ⟨{}⟩

def find? (texts : Texts) (id : Int32) : Option TextEntry :=
  texts.entries.find? id

def contains (texts : Texts) (id : Int32) : Bool :=
  texts.entries.contains id

def size (texts : Texts) : Nat :=
  texts.entries.size

def add (texts : Texts) (row : TextRow) : Except LogLine Texts :=
  match TextRange.ofId? row.entry with
  | none => .error (.error s!"text entry {row.entry} is outside every text range, skipped")
  | some _ =>
      match ChatType.ofNumber? row.chatType.toUInt32 with
      | none =>
          .error (.error s!"text entry {row.entry} has unknown chat type {row.chatType}, skipped")
      | some chat =>
          if texts.contains row.entry then
            .error (.warn s!"text entry {row.entry} defined more than once, keeping the first")
          else
            .ok ⟨texts.entries.insert row.entry
              ⟨row.content, row.sound, chat, row.language, row.emote⟩⟩

def addAll (texts : Texts) : List TextRow → Logged Texts
  | [] => ⟨texts, []⟩
  | row :: rest =>
      match texts.add row with
      | .ok texts => texts.addAll rest
      | .error line =>
          let added := texts.addAll rest
          ⟨added.value, line :: added.log⟩

def ofRows (rows : List TextRow) : Logged Texts :=
  let added := addAll {} rows
  ⟨added.value, added.log ++ [.info s!"{added.value.size} script texts loaded"]⟩

/-- Those of the ids that have no text, in ascending order. -/
def missing (texts : Texts) (ids : List Int32) : List Int32 :=
  let absent := ids.filter fun id => !texts.contains id
  (absent.foldl (fun seen id => seen.insert id ()) (.empty : OrderedMap Int32 Unit)).keys

end Texts

end WorldScripts
