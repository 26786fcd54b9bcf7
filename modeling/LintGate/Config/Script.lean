/-
The reporter scripts.

They make a linter print one record for each problem, sorted, so that the records of
two revisions of a file can be compared.
-/
import LintGate.Config.Basic

set_option autoImplicit false

namespace LintGate.Reporter

/-- The script for `eslint`. -/
def eslintScript : String :=
  String.join [
    "/*\n",
    " * eslint formatter printing one \"file|severity|message\" record per problem,\n",
    " * sorted, for comparison between two revisions of the same file.\n",
    " * Not intended for human consumption.\n",
    " */\n",
    "\n",
    "var severityName = function (message) \x7b\n",
    "    return message.fatal || message.severity === 2 ? \"error\" : \"warning\";\n",
    "\x7d;\n",
    "\n",
    "var record = function (filePath, message) \x7b\n",
    "    return filePath + \"|\" + severityName(message) + \"|\" + message.message;\n",
    "\x7d;\n",
    "\n",
    "module.exports = function (results) \x7b\n",
    "    var lines = [];\n",
    "    results.forEach(function (result) \x7b\n",
    "        result.messages.forEach(function (message) \x7b\n",
    "            lines.push(record(result.filePath, message));\n",
    "        \x7d);\n",
    "    \x7d);\n",
    "    lines.sort();\n",
    "    return lines.length === 0 ? \"\" : lines.join(\"\\n\") + \"\\n\";\n",
    "\x7d;\n"]

/-- The script for `jshint`. -/
def jshintScript : String :=
  String.join [
    "/*\n",
    " * jshint reporter printing one \"file|code|reason\" record per problem,\n",
    " * sorted, for comparison between two revisions of the same file.\n",
    " * Not intended for human consumption.\n",
    " */\n",
    "\n",
    "var record = function (result) \x7b\n",
    "    return result.file + \"|\" + result.error.code + \"|\" + result.error.reason;\n",
    "\x7d;\n",
    "\n",
    "module.exports = \x7b\n",
    "    reporter: function (results) \x7b\n",
    "        var lines = results.map(record);\n",
    "        lines.sort();\n",
    "        lines.forEach(function (line) \x7b\n",
    "            console.log(line);\n",
    "        \x7d);\n",
    "    \x7d\n",
    "\x7d;\n"]

/-- The text of a reporter script. -/
def script : Reporter → String
  | eslint => eslintScript
  | jshint => jshintScript

/-- All reporters. -/
def all : List Reporter := [eslint, jshint]

end LintGate.Reporter
