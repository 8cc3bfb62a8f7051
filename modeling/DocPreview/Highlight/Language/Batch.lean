import DocPreview.Highlight.Grammar

/-!
# The grammar of batch files

A command is known only at the start of a line or after white space. What is assigned by the
command `set` is read by rules of its own.
-/

namespace DocPreview.Highlight.Language

open Grammar

namespace Batch

/-- The names of commands. -/
def commandNames : String :=
  "adprep|append|arp|assoc|at|atmadm|attrib|auditpol|autochk|autoconv|autofmt|bcdboot|" ++
    "bcdedit|bdehdcfg|bitsadmin|bootcfg|break|cacls|cd|certreq|certutil|change|chcp|" ++
    "chdir|chglogon|chgport|chgusr|chkdsk|chkntfs|choice|cipher|clip|cls|clscluadmin|" ++
    "cluster|cmd|cmdkey|cmstp|color|comp|compact|convert|copy|cprofile|cscript|csvde|" ++
    "date|dcdiag|dcgpofix|dcpromo|defrag|del|dfscmd|dfsdiag|dfsrmig|diantz|dir|dirquota|" ++
    "diskcomp|diskcopy|diskpart|diskperf|diskraid|diskshadow|dispdiag|doin|dnscmd|doskey|" ++
    "driverquery|dsacls|dsadd|dsamain|dsdbutil|dsget|dsmgmt|dsmod|dsmove|dsquery|dsrm|" ++
    "echo|edit|endlocal|erase|esentutl|eventcreate|eventquery|eventtriggers|evntcmd|" ++
    "expand|extract|fc|filescrn|find|findstr|finger|flattemp|fonde|forfiles|format|" ++
    "freedisk|fsutil|ftp|ftype|fveupdate|getmac|gettype|gpfixup|gpresult|gpupdate|" ++
    "graftabl|hashgen|help|helpctr|hostname|icacls|iisreset|inuse|ipconfig|ipxroute|" ++
    "irftp|ismserv|jetpack|klist|ksetup|ktmutil|ktpass|label|ldifd|ldp|lodctr|logman|" ++
    "logoff|lpq|lpr|macfile|makecab|manage-bde|mapadmin|md|mkdir|mklink|mmc|mode|more|" ++
    "mount|mountvol|move|mqbup|mqsvc|mqtgsvc|msdt|msg|msiexec|msinfo32|mstsc|nbtstat|net|" ++
    "netcfg|netdiag|netdom|netsh|netstat|nfsadmin|nfsshare|nfsstat|nlb|nlbmgr|nltest|" ++
    "nslookup|ntbackup|ntcmdprompt|ntdsutil|ntfrsutl|openfiles|pagefileconfig|path|" ++
    "pathping|pause|pbadmin|pentnt|perfmon|ping|pnpunattend|pnputil|popd|powercfg|" ++
    "powershell|powershell_ise|print|prncnfg|prndrvr|prnjobs|prnmngr|prnport|prnqctl|" ++
    "prompt|pubprn|pushd|pushprinterconnections|pwlauncher|qappsrv|qprocess|query|quser|" ++
    "qwinsta|rasdial|rcp|rd|rdpsign|recover|redircmp|redirusr|reg|regini|regsvr32|relog|" ++
    "ren|rename|rendom|repadmin|repair-bde|replace|reset|restore|rexec|risetup|rmdir|" ++
    "robocopy|route|rpcinfo|rpcping|rsh|runas|rundll32|rwinsta|sc|schtasks|scwcmd|" ++
    "secedit|serverceipoptin|servermanagercmd|serverweroptin|setlocal|setspn|setx|sfc|" ++
    "shadow|shift|showmount|shutdown|sort|start|storrept|subst|sxstrace|sysocmgr|" ++
    "systeminfo|takeown|tapicfg|taskkill|tasklist|tcmsetup|telnet|tftp|time|timeout|" ++
    "title|tlntadmn|tpmvscmgr|tracerpt|tracert|tree|tscon|tsdiscon|tsecimp|tskill|tsprof|" ++
    "type|typeperf|tzutil|uddiconfig|umount|unlodctr|ver|verifier|verify|vol|vssadmin|" ++
    "w32tm|waitfor|wbadmin|wdsutil|wecutil|wevtutil|where|whoami|winnt|winnt32|winpop|" ++
    "winrm|winrs|winsat|wlbs|wmic|wscript|xcopy"

/-- What a command can stand behind. -/
def behind : String := r"(?i)(?:^|(?<=[\s@]))"

/-- What ends a command; all of it stays to be read. -/
def commandEnd : Entry := pop r"(?=$\n|$|[&|><)])" ""

/-- The contexts of commands. -/
def commands : Grammar := [
  ("main", context [
    mark (behind ++ "(?:" ++ commandNames ++ r")(?=$|\s)") "keyword.command",
    push (behind ++ r"set(?=$|\s)") "keyword.command" ["set"],
    use "comments",
    mark r"\b(?i:nul)\b" "constant.language",
    use "control",
    use "escapes",
    mark r"^\s*(:)([^+=,;:\s]\S*)" ""
      |>.parts [(1, "punctuation.separator"), (2, "entity.name.label")],
    use "numbers",
    use "operators",
    push r"\(" "punctuation.section.group.begin" ["group"],
    use "strings",
    use "variables"]),
  ("comments", context [
    push r"(?:^|(&))\s*(?=:[+=,;: ])" "" ["remark", "colon remark"]
      |>.parts [(1, "keyword.operator.conditional")],
    push r"(?i)(?:^|(?<=[\s@]))rem\b" "keyword.command.rem" ["remark line"]]),
  ("colon remark", context [pop r"(?=\n)|$" ""] |>.whole "comment.line.colon"),
  ("remark", context [pop r"\n" "", popNow]),
  ("remark line", context [pop r"\n" ""] |>.whole "comment.line.rem"),
  ("control", context [
    mark r"(?i)(?:^|(?<=\s))(?:call|exit(?=$|\s)|goto(?=$|\s|:))" "keyword.control.statement",
    mark (r"(?i)(?:^|(?<=\s))(if)\s+(?:(not)\s+)?(exist|defined|errorlevel|cmdextversion)" ++
      r"(?=\s)") "" |>.parts [(1, "keyword.control.conditional"),
        (2, "keyword.operator.logical"), (3, "keyword.other.special-method")],
    mark r"(?i)(?:^|(?<=\s))(?:if|else)(?=$|\s)" "keyword.control.conditional",
    push r"(?i)(?:^|(?<=[\s(&^]))for(?=\s)" "keyword.control.repeat" ["repetition"]]),
  ("repetition", context [
    pop r"\n" "",
    push r"(?<=[\s^])(?i:in)(?=\s)" "keyword.control.repeat.in" ["repetition values"],
    use "main"]),
  ("repetition values", context [
    pop r"(?<=[\s)^])(?i:do)(?=\s)" "keyword.control.repeat.do",
    pop r"\n" "",
    use "main"]),
  ("group", context [
    pop r"\)" "punctuation.section.group.end",
    mark r"[,;]" "punctuation.separator",
    use "main"]),
  ("operators", context [
    mark r"@(?=\S)" "keyword.operator.at",
    mark r"(?<=\s)(?i:equ|neq|lss|leq|gtr|geq)(?=\s)|==" "keyword.operator.comparison",
    mark r"(?<=\s)(?i:not)(?=\s)" "keyword.operator.logical",
    mark r"(?<!\^)&&?|\|\|" "keyword.operator.conditional",
    mark r"(?<!\^)\|" "keyword.operator.pipe",
    mark r"<&?|>[&>]?" "keyword.operator.redirection"]),
  ("escapes", context [mark r"%%|\^\^!|\^(?=.)|\^\n" "constant.character.escape"]),
  ("numbers", context [
    mark r"(?:^|(?<=[\s=]))(?:0[xX]\h*|[+-]?\d+)(?=$|\s|<|>)" "constant.numeric"])]

/-- The contexts of the command `set`. -/
def assignments : Grammar := [
  ("set", context [
    commandEnd,
    use "escapes",
    use "variables",
    use "numbers",
    push r"\(" "punctuation.section.group.begin" ["group"],
    push r"(\x22)\s*([^ ][^=\n]*)(=)" "" ["quoted assignment"] |>.parts [
      (1, "punctuation.definition.string.begin"), (2, "variable.other.readwrite"),
      (3, "keyword.operator.assignment")],
    use "strings",
    push r"([^ ][^=\n]*)(=)" "" ["assigned value"]
      |>.parts [(1, "variable.other.readwrite"), (2, "keyword.operator.assignment")],
    push r"\s+/[aA]\s+" "" ["arithmetic"],
    push r"\s+/[pP]\s+" "" ["prompt"]]),
  ("quoted assignment", context [
    pop r"\x22" "punctuation.definition.string.end",
    use "variables",
    use "numbers",
    use "escapes"] |>.whole "string.quoted.double"),
  ("assigned value", context [
    commandEnd,
    use "escapes",
    use "variables",
    use "numbers",
    push r"\(" "punctuation.section.group.begin" ["group"],
    use "strings"]),
  ("arithmetic", context [
    commandEnd,
    push r"\x22" "punctuation.definition.string.begin" ["quoted arithmetic"],
    use "arithmetic items",
    use "variables"]),
  ("quoted arithmetic", context [
    pop r"\x22" "punctuation.definition.string.end",
    use "arithmetic items",
    use "variables"] |>.whole "string.quoted.double"),
  ("arithmetic group", context [
    pop r"\)" "punctuation.section.group.end",
    use "arithmetic items"]),
  ("arithmetic items", context [
    mark r"([^ \n]*)(\+=|-=|\*=|/=|%%=|&=|\|=|\^=|<<=|>>=)" "" |>.parts [
      (1, "variable.other.readwrite"), (2, "keyword.operator.assignment.augmented")],
    mark r"\+|-|/|\*|%%|\||&|\^|<<|>>|~" "keyword.operator.arithmetic",
    mark r"!(?![^!\n]+!)" "keyword.operator.logical",
    mark r"([^ =\n]*)(=)" ""
      |>.parts [(1, "variable.other.readwrite"), (2, "keyword.operator.assignment")],
    use "numbers",
    mark r"," "punctuation.separator",
    push r"\(" "punctuation.section.group.begin" ["arithmetic group"]]),
  ("prompt", context [
    commandEnd,
    push r"(\x22)\s*([^ ][^=\n]*)(=)" "" ["quoted assignment"] |>.parts [
      (1, "punctuation.definition.string.begin"), (2, "variable.other.readwrite"),
      (3, "keyword.operator.assignment")],
    push r"([^ ][^=\n]*)(=)" "" ["prompt text"]
      |>.parts [(1, "variable.other.readwrite"), (2, "keyword.operator.assignment")]]),
  ("prompt text", context [
    commandEnd,
    use "strings"])]

/-- The contexts of texts and variables. -/
def texts : Grammar := [
  ("strings", context [push r"\x22" "punctuation.definition.string.begin" ["text"]]),
  ("text", context [
    pop r"\x22" "punctuation.definition.string.end",
    pop r"\n" "invalid.illegal.newline",
    mark r"%%" "constant.character.escape",
    use "variables"] |>.whole "string.quoted.double"),
  ("variables", context [
    mark r"%(?:(?i:~[fdpnxsatz]*(?:\$PATH:)?)?\d|\*)" "variable.parameter",
    push r"%(?=[^%\n]+%)" "punctuation.definition.variable.begin" ["variable"],
    push r"!(?=[^!\n]+!)" "punctuation.definition.variable.begin" ["late variable"]]),
  ("variable", context [
    pop r"%" "punctuation.definition.variable.end",
    pop r"\n" "",
    push r":~" "punctuation.separator" ["part of a variable"],
    push r":" "punctuation.separator" ["replacement"]] |>.whole "variable.other.readwrite"),
  ("late variable", context [
    pop r"!" "punctuation.definition.variable.end",
    pop r"\n" "",
    push r":~" "punctuation.separator" ["part of a variable"],
    push r":" "punctuation.separator" ["replacement"]] |>.whole "variable.other.readwrite"),
  ("part of a variable", context [
    pop r"(?=[%!\n])" "",
    mark r"([+-]?\d+)(?:(,)([+-]?\d+))?" ""
      |>.parts [(1, "constant.numeric"), (2, "punctuation.separator"), (3, "constant.numeric")]]),
  ("replacement", context [
    pop r"(?=[%!\n])" "",
    mark r"=" "punctuation.separator",
    mark r"[^=%!\n]+" "string.unquoted"])]

end Batch

/-- The grammar of batch files. -/
def batch : Grammar := Batch.commands ++ Batch.assignments ++ Batch.texts

end DocPreview.Highlight.Language
