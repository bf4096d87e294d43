import LogWarden.Rules.Spec

/-! # The built-in rules

The table that is written when there is none: the lines of a server of the game, in order of kinds. -/

namespace LogWarden.RuleSetSpec

/-- Rule sets of one kind: patterns with the groups that all of them declare. -/
def uniform (name : String) (groups : List String) (regexes : List String) : RuleSetSpec :=
  ⟨name, regexes.map (⟨·, groups⟩)⟩

/-- The built-in rule sets. -/
def builtin : List RuleSetSpec :=
  [uniform "game-crashed" []
    ["\\[\\d\x7b2\x7d:\\d\x7b2\x7d:\\d\x7b2\x7d\\] \\[.*FATAL\\]:.*",
     ".*(Exception in server tick loop|This crash report has been saved to"
       ++ "|---- Minecraft Crash Report ----).*"],
   uniform "land-invite" ["inviter", "land_name"]
    [".*?(?P<inviter>[\\w\\x\x7b4e00\x7d-\\x\x7b9fff\x7d]\x7b2,16\x7d).*?邀请.*?加入"
       ++ ".*?(?P<land_name>[\\w\\x\x7b4e00\x7d-\\x\x7b9fff\x7d\\s·\\-]\x7b2,32\x7d).*?领土"],
   uniform "land-deposit" ["land_name", "player", "in_value", "now_value"]
    ["^\\[CHAT\\]\\s+领土>>\\s+收件箱\\s-\\s领土\\s+(?P<land_name>[^:]+):\\s+玩家\\s+(?P<player>\\w+)"
       ++ "\\s+存入了\\s+\\$(?P<in_value>[\\d,]+\\.\\d\x7b2\x7d)\\.当前余额:"
       ++ "\\s+\\$(?P<now_value>[\\d,]+\\.\\d\x7b2\x7d)$"],
   uniform "land-withdraw" ["land_name", "player", "out_value", "now_value"]
    ["^\\[CHAT\\]\\s+领土>>\\s+收件箱\\s-\\s领土\\s+(?P<land_name>[^:]+):\\s+玩家\\s+(?P<player>\\w+)"
       ++ "\\s+取出了\\s+\\$(?P<out_value>[\\d,]+\\.\\d\x7b2\x7d)\\.当前余额:"
       ++ "\\s+\\$(?P<now_value>[\\d,]+\\.\\d\x7b2\x7d)$"],
   uniform "whisper" ["sender", "text"]
    ["(?P<sender>\\w+) 悄悄的对 我 说: (?P<text>.+)"],
   uniform "message" ["server_name", "channel", "tag", "player", "content"]
    ["\\[CHAT\\]\\s*?(?:\\[(?P<server_name>[^\\]]+?)\\]\\s*)?"
       ++ "\\[(?P<channel>G|L|交易|RP|国家|[A-Z]\x7b2,\x7d)\\]\\s+(?:(?P<tag>[^\\s:]+)\\s+)?"
       ++ "(?P<player>[A-Za-z0-9_]\x7b3,16\x7d)(?:\\s*[:>]|\\s+说)\\s*(?P<content>.*)$"],
   uniform "view-sync" ["admin_name"] ["你的视角已与 (?P<admin_name>\\w+) 同步"],
   uniform "join" ["player"]
    ["(?P<player>\\w+) joined the game", "(?P<player>\\w+) 加入了游戏"],
   uniform "quit" ["player"]
    ["(?P<player>\\w+) left the game", "(?P<player>\\w+) 退出了游戏"],
   uniform "kick" [] ["您已被踢出"],
   uniform "disconnect" []
    [".*(?:Disconnected|连接断开|Timed out|Connection reset|lost connection).*"],
   uniform "idle" [] ["你暂时离开了"],
   uniform "idle-resume" [] ["你回来了"]]

end LogWarden.RuleSetSpec
