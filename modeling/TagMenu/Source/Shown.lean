import TagMenu.Source.Basic
import TagMenu.Source.Discovery

namespace TagMenu

open Text (Shown)

def Eviction.shownInSettings : Eviction → Shown
  | retain => .word "Retain"
  | idle refreshes => .record "Idle" [("refreshes", .number refreshes.toNat)]

def Settings.shown (settings : Settings) : Shown :=
  .record "CompletionConfig" [
    ("name", .text settings.name),
    ("mark", .text settings.mark),
    ("filetypes", .texts settings.filetypes),
    ("tag_files", .texts (settings.tagFiles.map (·.text))),
    ("tagger", .optional (settings.tagger.map (·.shown "TaggerConfig"))),
    ("conflicting_sources", .texts settings.conflicting),
    ("eviction", settings.eviction.shownInSettings),
    ("base_dir", .optional (settings.base.map fun path => .text path.text))]

def Cache.shownEmpty (cache : Cache) (loader : Shown) : Shown :=
  .record "TagCache" [
    ("loader", loader),
    ("slots", .word "\x7b\x7d"),
    ("order", .list []),
    ("policy", cache.policy.shown),
    ("generation", .number cache.generation)]

def Source.shown (source : Source) (discovery : Discovery) (loader : Shown) : Shown :=
  .record "TagCompletionSource" [
    ("config", source.settings.shown),
    ("discovery", discovery.shown),
    ("cache", source.cache.shownEmpty loader),
    ("log", .text "<dyn CompletionLog>")]

def Source.Event.shown (event : Source.Event) : Shown :=
  .record "EventContext" [
    ("current_file", .optional (event.file.map fun path => .text path.text)),
    ("sources", .texts event.sources)]

def Source.Request.shown (request : Source.Request) : Shown :=
  .record "CompletionContext" [
    ("current_file", .optional (request.file.map fun path => .text path.text)),
    ("keyword_pattern", .text request.pattern)]

end TagMenu
