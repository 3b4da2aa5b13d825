/-!
# Instructions to the provider

What the provider is asked to do, as the system message of a request, and the headings and fields
that its answers must have. The Markdown format has a second, stricter instruction that repeats the
headings.
-/

namespace AnalysisGateway

/-- The headings of a Markdown analysis, in their order. -/
def requiredHeadings : List String := [
  "# Code Complexity Analysis",
  "## 💡 Intuition & Approach",
  "## \u23f1\ufe0f Time Complexity",
  "## 💾 Space Complexity",
  "## 🛠\ufe0f Optimizations/Notes"]

/-- The fields of a JSON report, in their order. -/
def requiredFields : List String :=
  ["time_complexity", "space_complexity", "improvements", "explanation"]

/-- The instructions that a request can carry. -/
inductive Instruction where
  | markdown
  | markdownRetry
  | json
  deriving DecidableEq, Repr

/-- The wording of an instruction. -/
def Instruction.text : Instruction → String
  | .markdown =>
    "You are a precise code complexity analyst. Produce ONLY the following " ++
    "Markdown sections with no extra text, chit-chat, or pre/post disclaimers. Do " ++
    "not include code fences around headings. Follow this exact structure and " ++
    "headings exactly:\n" ++
    "\n" ++
    "# Code Complexity Analysis\n" ++
    "\n" ++
    "## 💡 Intuition & Approach\n" ++
    "Provide a concise, high-level explanation of the algorithm and any data " ++
    "structures used. 2-5 sentences.\n" ++
    "\n" ++
    "## \u23f1\ufe0f Time Complexity\n" ++
    "State Big-O in terms of N (size of input). Include a brief justification tied " ++
    "to loops/recursion/operations.\n" ++
    "\n" ++
    "## 💾 Space Complexity\n" ++
    "State Big-O auxiliary space in terms of N. Include a brief justification " ++
    "about additional data structures/recursion depth.\n" ++
    "\n" ++
    "## 🛠\ufe0f Optimizations/Notes\n" ++
    "Suggest at least one non-trivial improvement, alternative approach, or " ++
    "highlight meaningful edge cases/trade-offs.\n"
  | .markdownRetry =>
    "Your previous answer did not strictly follow the required structure. Output " ++
    "ONLY the 5 sections with EXACT headings and no extra text: \n" ++
    "# Code Complexity Analysis\n" ++
    "\n" ++
    "## 💡 Intuition & Approach\n" ++
    "\n" ++
    "## \u23f1\ufe0f Time Complexity\n" ++
    "\n" ++
    "## 💾 Space Complexity\n" ++
    "\n" ++
    "## 🛠\ufe0f Optimizations/Notes"
  | .json =>
    "You are CodeComplexity, an AI assistant specialized in analyzing code " ++
    "snippets to determine their time and space complexity.\n" ++
    "\n" ++
    "Your task is to analyze the provided code and return a JSON object with the " ++
    "following fields:\n" ++
    "- time_complexity: A string representing the Big O time complexity (e.g., " ++
    "\"O(n)\", \"O(n log n)\", \"O(n^2)\")\n" ++
    "- space_complexity: A string representing the Big O space complexity (e.g., " ++
    "\"O(1)\", \"O(n)\")\n" ++
    "- improvements: An array of strings, each suggesting a way to improve the " ++
    "code's efficiency\n" ++
    "- explanation: A clear, concise explanation of the complexity analysis, " ++
    "suitable for beginners\n" ++
    "\n" ++
    "Your response must be valid JSON and contain only these fields. Do not " ++
    "include any text outside the JSON object.\n" ++
    "Ensure your explanations are accurate, educational, and helpful for " ++
    "programmers trying to understand algorithmic complexity.\n" ++
    "\n" ++
    "When analyzing code:\n" ++
    "1. Identify the dominant operations that affect time complexity\n" ++
    "2. Consider the worst-case scenario\n" ++
    "3. Explain your reasoning in simple terms\n" ++
    "4. Suggest practical improvements that could optimize the code\n" ++
    "5. Keep explanations beginner-friendly and avoid unnecessary jargon\n" ++
    "\n" ++
    "Example response format:\n" ++
    "\x7b\n" ++
    "  \"time_complexity\": \"O(n^2)\",\n" ++
    "  \"space_complexity\": \"O(n)\",\n" ++
    "  \"improvements\": [\n" ++
    "    \"Use a hash map to reduce time complexity to O(n)\",\n" ++
    "    \"Avoid nested loops when possible\",\n" ++
    "    \"Consider using a more efficient algorithm like X\"\n" ++
    "  ],\n" ++
    "  \"explanation\": \"This code uses nested loops to compare each element with " ++
    "every other element, resulting in O(n^2) time complexity. The space " ++
    "complexity is O(n) because it creates an additional array proportional to the " ++
    "input size. The nested loops are the main performance bottleneck.\"\n" ++
    "\x7d\n"

/-- The user message of the JSON format: the snippet as submitted, in a fenced block. -/
def fencedSnippet (code : String) : String :=
  "Analyze this code:\n\n```\n" ++ code ++ "\n```"

end AnalysisGateway
