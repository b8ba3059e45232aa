/-
  TimedTrials/Page/Script.lean
  ============================
  **The script of the experiment page.**

  The page is a program of its own that runs in a browser: it presents the trials of the
  payload one at a time, takes keys and texts, measures response times, shows feedback, and
  at the end sends the results to the save endpoint or offers them as a download. The
  library treats it as a text that is put into every page.
-/
namespace TimedTrials.Page

/-- The lines of the script. -/
def scriptLines : List String := [
  "(function () \x7b",
  "    'use strict';",
  "",
  "    const payload = JSON.parse(document.getElementById('peg-payload').textContent);",
  "    const trials = payload.trials;",
  "    const settings = payload.settings;",
  "    const keyMap = \x7b",
  "        'space': ' ', 'spacebar': ' ',",
  "        'ctrl': 'control', 'control': 'control',",
  "        'lshift': 'shift', 'rshift': 'shift', 'shift': 'shift'",
  "    \x7d;",
  "",
  "    const container = document.getElementById('container');",
  "    const feedbackBox = document.getElementById('feedback');",
  "    const noticeBox = document.getElementById('notice');",
  "",
  "    // One live trial at a time. Every callback carries the generation it was",
  "    // armed for and is ignored once the generation has moved on.",
  "    let phase = 'idle';",
  "    let current = -1;",
  "    let generation = 0;",
  "    let startTime = 0;",
  "    let keysOpen = false;",
  "    let timeoutHandle = null;",
  "    let graceHandle = null;",
  "    let feedbackHandle = null;",
  "    let startedAt = null;",
  "    const results = [];",
  "",
  "    // Browsers fire longer timers immediately; clamp to the largest 32-bit delay.",
  "    const MAX_DELAY_MS = 2147483647;",
  "    function delay(ms) \x7b",
  "        return Math.min(ms, MAX_DELAY_MS);",
  "    \x7d",
  "",
  "    function normalizeKey(name) \x7b",
  "        if (name === ' ') return ' ';",
  "        const lower = String(name).trim().toLowerCase();",
  "        return Object.prototype.hasOwnProperty.call(keyMap, lower) ? keyMap[lower] : lower;",
  "    \x7d",
  "",
  "    function cancelPending() \x7b",
  "        [timeoutHandle, graceHandle, feedbackHandle].forEach(h => \x7b if (h !== null) clearTimeout(h); \x7d);",
  "        timeoutHandle = graceHandle = feedbackHandle = null;",
  "        keysOpen = false;",
  "        document.onkeydown = null;",
  "    \x7d",
  "",
  "    function preloadImages(srcs) \x7b",
  "        return Promise.all(srcs.map(src => new Promise(resolve => \x7b",
  "            const img = new Image();",
  "            img.onload = img.onerror = () => resolve();",
  "            img.src = src;",
  "        \x7d)));",
  "    \x7d",
  "",
  "    function place(position) \x7b",
  "        const [vertical, horizontal] = position.split('-');",
  "        document.body.style.alignItems =",
  "            vertical === 'top' ? 'flex-start' : vertical === 'bottom' ? 'flex-end' : 'center';",
  "        document.body.style.justifyContent =",
  "            horizontal === 'left' ? 'flex-start' : horizontal === 'right' ? 'flex-end' : 'center';",
  "    \x7d",
  "",
  "    function presentTrial(index) \x7b",
  "        cancelPending();",
  "        generation += 1;",
  "        const token = generation;",
  "        const trial = trials[index];",
  "        current = index;",
  "",
  "        document.body.style.backgroundColor = trial.backgroundColor;",
  "        container.style.color = trial.stimulusColor;",
  "        place(trial.position);",
  "        feedbackBox.style.display = 'none';",
  "        container.innerHTML = trial.stimulusHtml;",
  "",
  "        phase = 'presenting';",
  "        startTime = performance.now();",
  "",
  "        const response = trial.response;",
  "        if (response.kind === 'text') \x7b",
  "            const input = document.createElement('input');",
  "            input.type = 'text';",
  "            if (response.placeholder) input.placeholder = response.placeholder;",
  "            if (response.maxLength) input.maxLength = response.maxLength;",
  "            if (response.widthPx) input.style.width = response.widthPx + 'px';",
  "            const button = document.createElement('button');",
  "            button.textContent = 'Continue';",
  "            button.onclick = () => resolveTrial(token, \x7b text: input.value \x7d);",
  "            input.onkeydown = e => \x7b",
  "                if (e.key === 'Enter') resolveTrial(token, \x7b text: input.value \x7d);",
  "            \x7d;",
  "            container.appendChild(document.createElement('br'));",
  "            container.appendChild(input);",
  "            container.appendChild(button);",
  "            input.focus();",
  "        \x7d else if (response.kind === 'keys') \x7b",
  "            keysOpen = true;",
  "            document.onkeydown = e => \x7b",
  "                if (!keysOpen || token !== generation) return;",
  "                const key = normalizeKey(e.key);",
  "                if (response.keys.includes(key)) \x7b",
  "                    e.preventDefault();",
  "                    resolveTrial(token, \x7b key: key \x7d);",
  "                \x7d",
  "            \x7d;",
  "        \x7d",
  "",
  "        if (trial.latencyMs !== null) \x7b",
  "            timeoutHandle = setTimeout(() => resolveTrial(token, null), delay(trial.latencyMs));",
  "            if (response.kind === 'keys' && settings.keyGraceMs !== null) \x7b",
  "                graceHandle = setTimeout(() => \x7b",
  "                    if (token === generation) keysOpen = false;",
  "                \x7d, delay(settings.keyGraceMs));",
  "            \x7d",
  "        \x7d",
  "    \x7d",
  "",
  "    function judge(trial, actual) \x7b",
  "        if (trial.correctResponse === null) return null;",
  "        if (actual === null) return false;",
  "        if (trial.response.kind === 'text') return actual === trial.correctResponse;",
  "        return normalizeKey(actual) === normalizeKey(trial.correctResponse);",
  "    \x7d",
  "",
  "    function feedbackFor(trial, isCorrect) \x7b",
  "        const fb = trial.feedback;",
  "        if (!fb || !fb.message) return null;",
  "        switch (fb.rule) \x7b",
  "            case 'always':",
  "            case 'unmarked':",
  "                return fb.message;",
  "            case 'whenCorrect':",
  "                return isCorrect === true ? fb.message : null;",
  "            case 'whenIncorrect':",
  "                return isCorrect === false ? fb.message : null;",
  "            default:",
  "                return null;",
  "        \x7d",
  "    \x7d",
  "",
  "    function resolveTrial(token, outcome) \x7b",
  "        if (token !== generation || phase !== 'presenting') return;",
  "        const responseTimeMs = performance.now() - startTime;",
  "        cancelPending();",
  "        phase = 'resolved';",
  "",
  "        const trial = trials[current];",
  "        const actual = outcome === null ? null : (outcome.key !== undefined ? outcome.key : outcome.text);",
  "        const isCorrect = judge(trial, actual);",
  "        const shown = feedbackFor(trial, isCorrect);",
  "",
  "        const result = \x7b",
  "            sequencePosition: trial.sequencePosition,",
  "            block: trial.block,",
  "            repetition: trial.repetition,",
  "            grouping: trial.grouping,",
  "            stimulus: trial.stimulus,",
  "            correctResponse: trial.correctResponse,",
  "            actualResponse: actual,",
  "            responseTimeMs: responseTimeMs,",
  "            isCorrect: isCorrect,",
  "            timedOut: outcome === null,",
  "            feedbackShown: shown,",
  "            timestamp: new Date().toISOString()",
  "        \x7d;",
  "        ['blockRepetition', 'section', 'sectionRepetition'].forEach(field => \x7b",
  "            if (trial[field] !== undefined) result[field] = trial[field];",
  "        \x7d);",
  "        results.push(result);",
  "",
  "        if (shown !== null) \x7b",
  "            feedbackBox.textContent = shown;",
  "            feedbackBox.style.display = 'block';",
  "            const hold = trial.feedbackDurationMs !== null ? trial.feedbackDurationMs : settings.defaultFeedbackMs;",
  "            feedbackHandle = setTimeout(() => \x7b",
  "                if (token !== generation) return;",
  "                feedbackBox.style.display = 'none';",
  "                advance();",
  "            \x7d, delay(hold));",
  "        \x7d else \x7b",
  "            advance();",
  "        \x7d",
  "    \x7d",
  "",
  "    function advance() \x7b",
  "        if (current + 1 < trials.length) \x7b",
  "            presentTrial(current + 1);",
  "        \x7d else \x7b",
  "            finish();",
  "        \x7d",
  "    \x7d",
  "",
  "    function experimentId() \x7b",
  "        let suffix = '';",
  "        for (let i = 0; i < 4; i++) suffix += Math.floor(Math.random() * 36).toString(36);",
  "        return 'exp_' + Date.now().toString(36) + suffix;",
  "    \x7d",
  "",
  "    function showNotice(text) \x7b",
  "        noticeBox.textContent = text;",
  "        noticeBox.style.display = 'block';",
  "    \x7d",
  "",
  "    function download(artifact) \x7b",
  "        const blob = new Blob([JSON.stringify(artifact, null, 2)], \x7b type: 'application/json' \x7d);",
  "        const url = URL.createObjectURL(blob);",
  "        const a = document.createElement('a');",
  "        a.href = url;",
  "        a.download = 'experiment_data_' + artifact.experimentId + '.json';",
  "        document.body.appendChild(a);",
  "        a.click();",
  "        document.body.removeChild(a);",
  "        URL.revokeObjectURL(url);",
  "    \x7d",
  "",
  "    function deliver(artifact) \x7b",
  "        if (!settings.saveEndpoint) \x7b",
  "            download(artifact);",
  "            return;",
  "        \x7d",
  "        fetch(settings.saveEndpoint, \x7b",
  "            method: 'POST',",
  "            headers: \x7b 'Content-Type': 'application/json' \x7d,",
  "            body: JSON.stringify(artifact)",
  "        \x7d).then(res => \x7b",
  "            if (res.ok) return;",
  "            return res.text().then(body => \x7b",
  "                let message = body;",
  "                try \x7b message = JSON.parse(body).message || body; \x7d catch (_) \x7b /* plain text body */ \x7d",
  "                throw new Error(settings.saveEndpoint + ' answered ' + res.status + ': ' + message);",
  "            \x7d);",
  "        \x7d).catch(err => \x7b",
  "            showNotice('Could not save results to the server (' + err.message + '). They were downloaded instead.');",
  "            download(artifact);",
  "        \x7d);",
  "    \x7d",
  "",
  "    function finish() \x7b",
  "        cancelPending();",
  "        generation += 1;",
  "        phase = 'finished';",
  "        document.body.style.backgroundColor = 'darkgrey';",
  "        place('center-center');",
  "        container.style.color = 'white';",
  "        container.innerHTML = '<h2>Experiment complete. Thank you!</h2>';",
  "        deliver(\x7b",
  "            experimentId: experimentId(),",
  "            timestamp: new Date().toISOString(),",
  "            startedAt: startedAt,",
  "            environmentInfo: navigator.userAgent,",
  "            randomized: settings.randomized,",
  "            repetitions: settings.repetitions,",
  "            trials: results",
  "        \x7d);",
  "    \x7d",
  "",
  "    preloadImages(payload.preload).then(() => \x7b",
  "        startedAt = new Date().toISOString();",
  "        if (trials.length > 0) \x7b",
  "            presentTrial(0);",
  "        \x7d else \x7b",
  "            finish();",
  "        \x7d",
  "    \x7d);",
  "\x7d)();"]

def script : String := String.join (scriptLines.map (· ++ "\n"))

end TimedTrials.Page
