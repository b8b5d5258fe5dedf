import TagMenu.Disk.Volume
import TagMenu.Host
import TagMenu.Shell.Program

namespace TagMenu

structure Machine where
  volume : Disk.Volume
  reversedNotes : List Note := []

namespace Machine

open Disk (Failure Volume)

abbrev Act := StateM Machine

def asking {α : Type} (ask : Volume → α) : Act α := return ask (← get).volume

def changing (change : Volume → Except Failure Volume) : Act (Except Failure Unit) := do
  match change (← get).volume with
  | .ok volume =>
    modify fun machine => { machine with volume }
    return .ok ()
  | .error failure => return .error failure

def files : Files Act where
  workingDirectory := asking (·.workingDirectory)
  modified path := asking (·.modified path)
  read path := asking (·.read path)
  write path content := changing (·.write path content)
  exists? path := asking (·.exists? path)
  isFile path := asking (·.isFile path)
  entries path names := asking fun volume =>
    (volume.entries path names).map fun (name, node) => (name, EntryKind.ofNode node)

def host : Host Act where
  toFiles := files
  run program arguments := Shell.runNamed files program arguments
  note note := modify fun machine => { machine with reversedNotes := note :: machine.reversedNotes }

def takeNotes : Act (List Note) :=
  modifyGet fun machine => (machine.reversedNotes.reverse, { machine with reversedNotes := [] })

end Machine

end TagMenu
