import Botik.Storage.Statements

/-!
# The scripts of the migrations

What `storage/migrations.py` executes, migration by migration.
-/

namespace Botik

/-- The script of `_m001_core_schema`. -/
def coreSchemaScript : List Statement := [
  .createTable "account_snapshots" [
      ⟨"id", "INTEGER PRIMARY KEY AUTOINCREMENT"⟩, ⟨"snapshot_id", "TEXT UNIQUE NOT NULL"⟩,
      ⟨"reconciliation_run_id", "TEXT"⟩, ⟨"account_type", "TEXT NOT NULL"⟩,
      ⟨"snapshot_kind", "TEXT NOT NULL"⟩, ⟨"total_equity", "REAL"⟩, ⟨"wallet_balance", "REAL"⟩,
      ⟨"available_balance", "REAL"⟩, ⟨"payload_json", "TEXT NOT NULL"⟩,
      ⟨"created_at_utc", "TEXT NOT NULL"⟩] [],
  .createIndex "idx_account_snapshots_kind" "account_snapshots"
    (ascending ["snapshot_kind", "created_at_utc"]),
  .createTable "reconciliation_runs" [
      ⟨"reconciliation_run_id", "TEXT PRIMARY KEY"⟩, ⟨"trigger_source", "TEXT NOT NULL"⟩,
      ⟨"status", "TEXT NOT NULL"⟩, ⟨"started_at_utc", "TEXT NOT NULL"⟩,
      ⟨"finished_at_utc", "TEXT"⟩, ⟨"summary_json", "TEXT"⟩] [],
  .createIndex "idx_reconciliation_runs_started" "reconciliation_runs"
    (ascending ["started_at_utc"]),
  .createTable "reconciliation_issues" [
      ⟨"issue_id", "TEXT PRIMARY KEY"⟩, ⟨"reconciliation_run_id", "TEXT"⟩,
      ⟨"issue_type", "TEXT NOT NULL"⟩, ⟨"domain", "TEXT NOT NULL"⟩, ⟨"symbol", "TEXT"⟩,
      ⟨"severity", "TEXT NOT NULL"⟩, ⟨"details_json", "TEXT NOT NULL"⟩,
      ⟨"status", "TEXT NOT NULL DEFAULT 'open'"⟩, ⟨"created_at_utc", "TEXT NOT NULL"⟩,
      ⟨"resolved_at_utc", "TEXT"⟩] [],
  .createIndex "idx_reconciliation_issues_open" "reconciliation_issues"
    (ascending ["status", "created_at_utc"]),
  .createTable "strategy_runs" [
      ⟨"strategy_run_id", "TEXT PRIMARY KEY"⟩, ⟨"strategy_name", "TEXT NOT NULL"⟩,
      ⟨"market_category", "TEXT NOT NULL"⟩, ⟨"status", "TEXT NOT NULL"⟩,
      ⟨"started_at_utc", "TEXT NOT NULL"⟩, ⟨"finished_at_utc", "TEXT"⟩, ⟨"config_json", "TEXT"⟩] [],
  .createTable "events_audit" [
      ⟨"event_id", "TEXT PRIMARY KEY"⟩, ⟨"event_type", "TEXT NOT NULL"⟩,
      ⟨"domain", "TEXT NOT NULL"⟩, ⟨"symbol", "TEXT"⟩, ⟨"ref_id", "TEXT"⟩,
      ⟨"payload_json", "TEXT NOT NULL"⟩, ⟨"created_at_utc", "TEXT NOT NULL"⟩] [],
  .createIndex "idx_events_audit_type" "events_audit" (ascending ["event_type", "created_at_utc"])]

/-- The script of `_m002_spot_schema`. -/
def spotSchemaScript : List Statement := [
  .createTable "spot_balances" [
      ⟨"id", "INTEGER PRIMARY KEY AUTOINCREMENT"⟩, ⟨"account_type", "TEXT NOT NULL"⟩,
      ⟨"asset", "TEXT NOT NULL"⟩, ⟨"free_qty", "REAL NOT NULL DEFAULT 0.0"⟩,
      ⟨"locked_qty", "REAL NOT NULL DEFAULT 0.0"⟩, ⟨"total_qty", "REAL NOT NULL DEFAULT 0.0"⟩,
      ⟨"source_of_truth", "TEXT NOT NULL"⟩, ⟨"created_at_utc", "TEXT NOT NULL"⟩,
      ⟨"updated_at_utc", "TEXT NOT NULL"⟩]
    [.unique ["account_type", "asset"]],
  .createTable "spot_holdings" [
      ⟨"id", "INTEGER PRIMARY KEY AUTOINCREMENT"⟩, ⟨"account_type", "TEXT NOT NULL"⟩,
      ⟨"symbol", "TEXT NOT NULL"⟩, ⟨"base_asset", "TEXT NOT NULL"⟩,
      ⟨"free_qty", "REAL NOT NULL DEFAULT 0.0"⟩, ⟨"locked_qty", "REAL NOT NULL DEFAULT 0.0"⟩,
      ⟨"avg_entry_price", "REAL"⟩, ⟨"current_price", "REAL"⟩, ⟨"purchase_value_usdt", "REAL"⟩,
      ⟨"current_value_usdt", "REAL"⟩, ⟨"unrealized_pnl", "REAL"⟩, ⟨"unrealized_pnl_pct", "REAL"⟩,
      ⟨"hold_reason", "TEXT NOT NULL"⟩, ⟨"source_of_truth", "TEXT NOT NULL"⟩,
      ⟨"recovered_from_exchange", "INTEGER NOT NULL DEFAULT 0"⟩, ⟨"strategy_owner", "TEXT"⟩,
      ⟨"auto_sell_allowed", "INTEGER NOT NULL DEFAULT 0"⟩, ⟨"created_at_utc", "TEXT NOT NULL"⟩,
      ⟨"updated_at_utc", "TEXT NOT NULL"⟩]
    [.unique ["account_type", "symbol", "base_asset"]],
  .createIndex "idx_spot_holdings_symbol" "spot_holdings" (ascending ["symbol", "updated_at_utc"]),
  .createTable "spot_orders" [
      ⟨"id", "INTEGER PRIMARY KEY AUTOINCREMENT"⟩, ⟨"account_type", "TEXT NOT NULL"⟩,
      ⟨"symbol", "TEXT NOT NULL"⟩, ⟨"order_id", "TEXT"⟩, ⟨"order_link_id", "TEXT UNIQUE"⟩,
      ⟨"side", "TEXT NOT NULL"⟩, ⟨"order_type", "TEXT NOT NULL"⟩, ⟨"price", "REAL"⟩,
      ⟨"qty", "REAL"⟩, ⟨"filled_qty", "REAL NOT NULL DEFAULT 0.0"⟩, ⟨"status", "TEXT NOT NULL"⟩,
      ⟨"time_in_force", "TEXT"⟩, ⟨"is_maker", "INTEGER"⟩, ⟨"created_at_utc", "TEXT NOT NULL"⟩,
      ⟨"updated_at_utc", "TEXT NOT NULL"⟩] [],
  .createIndex "idx_spot_orders_symbol" "spot_orders" (ascending ["symbol", "created_at_utc"]),
  .createIndex "idx_spot_orders_status" "spot_orders" (ascending ["status", "updated_at_utc"]),
  .createTable "spot_fills" [
      ⟨"id", "INTEGER PRIMARY KEY AUTOINCREMENT"⟩, ⟨"exec_id", "TEXT UNIQUE NOT NULL"⟩,
      ⟨"order_id", "TEXT"⟩, ⟨"order_link_id", "TEXT"⟩, ⟨"symbol", "TEXT NOT NULL"⟩,
      ⟨"side", "TEXT NOT NULL"⟩, ⟨"exec_price", "REAL NOT NULL"⟩, ⟨"exec_qty", "REAL NOT NULL"⟩,
      ⟨"exec_fee", "REAL"⟩, ⟨"fee_currency", "TEXT"⟩, ⟨"is_maker", "INTEGER"⟩,
      ⟨"exec_time_ms", "INTEGER"⟩, ⟨"recorded_at_utc", "TEXT NOT NULL"⟩] [],
  .createIndex "idx_spot_fills_symbol_time" "spot_fills" (ascending ["symbol", "exec_time_ms"]),
  .createTable "spot_exit_decisions" [
      ⟨"id", "INTEGER PRIMARY KEY AUTOINCREMENT"⟩, ⟨"symbol", "TEXT NOT NULL"⟩,
      ⟨"decision_type", "TEXT NOT NULL"⟩, ⟨"pnl_pct", "REAL"⟩, ⟨"pnl_quote", "REAL"⟩,
      ⟨"reason", "TEXT"⟩, ⟨"created_at_utc", "TEXT NOT NULL"⟩] [],
  .createIndex "idx_spot_exit_decisions_symbol" "spot_exit_decisions"
    (ascending ["symbol", "created_at_utc"])]

/-- The script of `_m003_futures_schema`. -/
def futuresSchemaScript : List Statement := [
  .createTable "futures_positions" [
      ⟨"id", "INTEGER PRIMARY KEY AUTOINCREMENT"⟩, ⟨"account_type", "TEXT NOT NULL"⟩,
      ⟨"symbol", "TEXT NOT NULL"⟩, ⟨"side", "TEXT NOT NULL"⟩,
      ⟨"size", "REAL NOT NULL DEFAULT 0.0"⟩, ⟨"entry_price", "REAL"⟩, ⟨"mark_price", "REAL"⟩,
      ⟨"leverage", "REAL"⟩, ⟨"liq_price", "REAL"⟩, ⟨"unrealised_pnl", "REAL"⟩,
      ⟨"cum_realised_pnl", "REAL"⟩, ⟨"protection_status", "TEXT NOT NULL DEFAULT 'unknown'"⟩,
      ⟨"strategy_owner", "TEXT"⟩, ⟨"updated_at_utc", "TEXT NOT NULL"⟩,
      ⟨"created_at_utc", "TEXT NOT NULL"⟩]
    [.unique ["account_type", "symbol", "side"]],
  .createIndex "idx_futures_positions_symbol" "futures_positions"
    (ascending ["symbol", "updated_at_utc"]),
  .createTable "futures_open_orders" [
      ⟨"id", "INTEGER PRIMARY KEY AUTOINCREMENT"⟩, ⟨"account_type", "TEXT NOT NULL"⟩,
      ⟨"symbol", "TEXT NOT NULL"⟩, ⟨"order_id", "TEXT"⟩, ⟨"order_link_id", "TEXT UNIQUE"⟩,
      ⟨"side", "TEXT NOT NULL"⟩, ⟨"order_type", "TEXT NOT NULL"⟩, ⟨"price", "REAL"⟩,
      ⟨"qty", "REAL"⟩, ⟨"status", "TEXT NOT NULL"⟩, ⟨"reduce_only", "INTEGER NOT NULL DEFAULT 0"⟩,
      ⟨"created_at_utc", "TEXT NOT NULL"⟩, ⟨"updated_at_utc", "TEXT NOT NULL"⟩] [],
  .createTable "futures_fills" [
      ⟨"id", "INTEGER PRIMARY KEY AUTOINCREMENT"⟩, ⟨"exec_id", "TEXT UNIQUE NOT NULL"⟩,
      ⟨"order_link_id", "TEXT"⟩, ⟨"symbol", "TEXT NOT NULL"⟩, ⟨"side", "TEXT NOT NULL"⟩,
      ⟨"exec_price", "REAL NOT NULL"⟩, ⟨"exec_qty", "REAL NOT NULL"⟩, ⟨"exec_fee", "REAL"⟩,
      ⟨"fee_rate", "REAL"⟩, ⟨"is_maker", "INTEGER"⟩, ⟨"exec_time_ms", "INTEGER"⟩,
      ⟨"recorded_at_utc", "TEXT NOT NULL"⟩] [],
  .createIndex "idx_futures_fills_symbol" "futures_fills" (ascending ["symbol", "exec_time_ms"]),
  .createTable "futures_paper_trades" [
      ⟨"id", "INTEGER PRIMARY KEY AUTOINCREMENT"⟩, ⟨"trade_id", "TEXT UNIQUE NOT NULL"⟩,
      ⟨"symbol", "TEXT NOT NULL"⟩, ⟨"side", "TEXT NOT NULL"⟩, ⟨"entry_price", "REAL NOT NULL"⟩,
      ⟨"exit_price", "REAL"⟩, ⟨"qty", "REAL NOT NULL"⟩, ⟨"gross_pnl", "REAL"⟩,
      ⟨"net_pnl", "REAL"⟩, ⟨"hold_time_ms", "INTEGER"⟩, ⟨"spike_direction", "INTEGER"⟩,
      ⟨"spike_strength_bps", "REAL"⟩, ⟨"impulse_bps", "REAL"⟩, ⟨"entry_reason", "TEXT"⟩,
      ⟨"exit_reason", "TEXT"⟩, ⟨"model_scope", "TEXT NOT NULL DEFAULT 'futures'"⟩,
      ⟨"model_version", "TEXT"⟩, ⟨"was_profitable", "INTEGER"⟩,
      ⟨"opened_at_utc", "TEXT NOT NULL"⟩, ⟨"closed_at_utc", "TEXT"⟩] [],
  .createIndex "idx_futures_paper_symbol" "futures_paper_trades"
    (ascending ["symbol", "opened_at_utc"]),
  .createIndex "idx_futures_paper_scope" "futures_paper_trades"
    (ascending ["model_scope", "closed_at_utc"]),
  .createTable "futures_protection_orders" [
      ⟨"id", "INTEGER PRIMARY KEY AUTOINCREMENT"⟩, ⟨"symbol", "TEXT NOT NULL"⟩,
      ⟨"side", "TEXT NOT NULL"⟩, ⟨"sl_price", "REAL"⟩, ⟨"tp_price", "REAL"⟩,
      ⟨"status", "TEXT NOT NULL DEFAULT 'unknown'"⟩, ⟨"created_at_utc", "TEXT NOT NULL"⟩,
      ⟨"updated_at_utc", "TEXT NOT NULL"⟩]
    [.unique ["symbol", "side"]],
  .createTable "futures_funding_events" [
      ⟨"id", "INTEGER PRIMARY KEY AUTOINCREMENT"⟩, ⟨"symbol", "TEXT NOT NULL"⟩,
      ⟨"funding_rate", "REAL NOT NULL"⟩, ⟨"funding_fee", "REAL"⟩,
      ⟨"created_at_utc", "TEXT NOT NULL"⟩] []]

/-- The script of `_m004_lifecycle_schema`. -/
def lifecycleSchemaScript : List Statement := [
  .createTable "signals" [
      ⟨"signal_id", "TEXT PRIMARY KEY"⟩, ⟨"model_scope", "TEXT NOT NULL DEFAULT 'spot'"⟩,
      ⟨"ts_signal_ms", "INTEGER NOT NULL"⟩, ⟨"symbol", "TEXT NOT NULL"⟩,
      ⟨"side", "TEXT NOT NULL"⟩, ⟨"best_bid", "REAL"⟩, ⟨"best_ask", "REAL"⟩, ⟨"mid", "REAL"⟩,
      ⟨"spread_bps", "REAL"⟩, ⟨"depth_bid_quote", "REAL"⟩, ⟨"depth_ask_quote", "REAL"⟩,
      ⟨"slippage_buy_bps_est", "REAL"⟩, ⟨"slippage_sell_bps_est", "REAL"⟩,
      ⟨"trades_per_min", "REAL"⟩, ⟨"p95_trade_gap_ms", "REAL"⟩, ⟨"vol_1s_bps", "REAL"⟩,
      ⟨"impulse_bps", "REAL"⟩, ⟨"spike_direction", "INTEGER"⟩, ⟨"spike_strength_bps", "REAL"⟩,
      ⟨"min_required_spread_bps", "REAL"⟩, ⟨"scanner_status", "TEXT"⟩, ⟨"model_version", "TEXT"⟩,
      ⟨"profile_id", "TEXT"⟩, ⟨"action_entry_tick_offset", "INTEGER"⟩,
      ⟨"action_order_qty_base", "REAL"⟩, ⟨"action_target_profit", "REAL"⟩,
      ⟨"action_safety_buffer", "REAL"⟩, ⟨"action_min_top_book_qty", "REAL"⟩,
      ⟨"action_stop_loss_pct", "REAL"⟩, ⟨"action_take_profit_pct", "REAL"⟩,
      ⟨"action_hold_timeout_sec", "INTEGER"⟩, ⟨"action_maker_only", "INTEGER"⟩,
      ⟨"policy_used", "TEXT"⟩, ⟨"pred_open_prob", "REAL"⟩, ⟨"pred_exp_edge_bps", "REAL"⟩,
      ⟨"active_model_id", "TEXT"⟩, ⟨"model_id", "TEXT"⟩, ⟨"reward_net_edge_bps", "REAL"⟩,
      ⟨"reward_updated_at_utc", "TEXT"⟩, ⟨"order_size_quote", "REAL"⟩,
      ⟨"order_size_base", "REAL"⟩, ⟨"entry_price", "REAL"⟩, ⟨"created_at_utc", "TEXT NOT NULL"⟩] [],
  .createIndex "idx_signals_symbol_ts" "signals" (ascending ["symbol", "ts_signal_ms"]),
  .createIndex "idx_signals_scope" "signals" (ascending ["model_scope", "created_at_utc"]),
  .createTable "order_signal_map" [
      ⟨"order_link_id", "TEXT PRIMARY KEY"⟩, ⟨"signal_id", "TEXT"⟩,
      ⟨"created_at_utc", "TEXT NOT NULL"⟩] [],
  .createIndex "idx_order_signal_signal" "order_signal_map" (ascending ["signal_id"]),
  .createTable "order_events" [
      ⟨"id", "INTEGER PRIMARY KEY AUTOINCREMENT"⟩, ⟨"order_id", "TEXT"⟩,
      ⟨"order_link_id", "TEXT"⟩, ⟨"signal_id", "TEXT"⟩, ⟨"symbol", "TEXT NOT NULL"⟩,
      ⟨"side", "TEXT"⟩, ⟨"order_type", "TEXT"⟩, ⟨"time_in_force", "TEXT"⟩, ⟨"price", "REAL"⟩,
      ⟨"qty", "REAL"⟩, ⟨"order_status", "TEXT"⟩, ⟨"avg_price", "REAL"⟩, ⟨"cum_exec_qty", "REAL"⟩,
      ⟨"cum_exec_value", "REAL"⟩, ⟨"created_time_ms", "INTEGER"⟩, ⟨"updated_time_ms", "INTEGER"⟩,
      ⟨"event_time_utc", "TEXT NOT NULL"⟩] [],
  .createIndex "idx_order_events_order_link" "order_events" (ascending ["order_link_id"]),
  .createIndex "idx_order_events_symbol_ts" "order_events" (ascending ["symbol", "event_time_utc"]),
  .createTable "executions_raw" [
      ⟨"exec_id", "TEXT PRIMARY KEY"⟩, ⟨"order_id", "TEXT"⟩, ⟨"order_link_id", "TEXT"⟩,
      ⟨"signal_id", "TEXT"⟩, ⟨"symbol", "TEXT NOT NULL"⟩, ⟨"side", "TEXT"⟩,
      ⟨"order_type", "TEXT"⟩, ⟨"exec_price", "REAL NOT NULL"⟩, ⟨"exec_qty", "REAL NOT NULL"⟩,
      ⟨"exec_fee", "REAL"⟩, ⟨"fee_rate", "REAL"⟩, ⟨"fee_currency", "TEXT"⟩,
      ⟨"is_maker", "INTEGER"⟩, ⟨"exec_time_ms", "INTEGER"⟩, ⟨"recorded_at_utc", "TEXT NOT NULL"⟩] [],
  .createIndex "idx_exec_signal" "executions_raw" (ascending ["signal_id"]),
  .createIndex "idx_exec_symbol_time" "executions_raw" (ascending ["symbol", "exec_time_ms"]),
  .createTable "outcomes" [
      ⟨"signal_id", "TEXT PRIMARY KEY"⟩, ⟨"model_scope", "TEXT NOT NULL DEFAULT 'spot'"⟩,
      ⟨"symbol", "TEXT NOT NULL"⟩, ⟨"entry_vwap", "REAL"⟩, ⟨"exit_vwap", "REAL"⟩,
      ⟨"filled_qty", "REAL"⟩, ⟨"hold_time_ms", "INTEGER"⟩, ⟨"gross_pnl_quote", "REAL"⟩,
      ⟨"net_pnl_quote", "REAL"⟩, ⟨"net_edge_bps", "REAL"⟩, ⟨"max_adverse_excursion_bps", "REAL"⟩,
      ⟨"max_favorable_excursion_bps", "REAL"⟩, ⟨"was_fully_filled", "INTEGER"⟩,
      ⟨"was_profitable", "INTEGER"⟩, ⟨"exit_reason", "TEXT"⟩, ⟨"closed_at_utc", "TEXT NOT NULL"⟩] [],
  .createIndex "idx_outcomes_symbol_close" "outcomes" (ascending ["symbol", "closed_at_utc"]),
  .createIndex "idx_outcomes_scope" "outcomes" (ascending ["model_scope", "closed_at_utc"]),
  .createTable "model_stats" [
      ⟨"model_id", "TEXT NOT NULL"⟩, ⟨"model_scope", "TEXT NOT NULL DEFAULT 'spot'"⟩,
      ⟨"ts_ms", "INTEGER"⟩, ⟨"net_edge_mean", "REAL"⟩, ⟨"win_rate", "REAL"⟩,
      ⟨"fill_rate", "REAL"⟩, ⟨"accuracy", "REAL"⟩, ⟨"sharpe_ratio", "REAL"⟩,
      ⟨"trade_count", "INTEGER"⟩, ⟨"status", "TEXT NOT NULL DEFAULT 'idle'"⟩,
      ⟨"created_at_utc", "TEXT"⟩] [],
  .createIndex "idx_model_stats_ts" "model_stats" (ascending ["ts_ms"]),
  .createIndex "idx_model_stats_scope" "model_stats" (ascending ["model_scope", "ts_ms"]),
  .createTable "bandit_state" [
      ⟨"symbol", "TEXT NOT NULL"⟩, ⟨"profile_id", "TEXT NOT NULL"⟩, ⟨"n", "INTEGER NOT NULL"⟩,
      ⟨"mean", "REAL NOT NULL"⟩, ⟨"m2", "REAL NOT NULL"⟩, ⟨"updated_at_utc", "TEXT NOT NULL"⟩]
    [.primaryKey ["symbol", "profile_id"]]]

/-- The script of `_m005_price_history`. -/
def priceHistoryScript : List Statement := [
  .createTable "price_history" [
      ⟨"id", "INTEGER PRIMARY KEY AUTOINCREMENT"⟩, ⟨"symbol", "TEXT NOT NULL"⟩,
      ⟨"category", "TEXT NOT NULL DEFAULT 'spot'"⟩, ⟨"interval", "TEXT NOT NULL"⟩,
      ⟨"open_time_ms", "INTEGER NOT NULL"⟩, ⟨"open", "REAL NOT NULL"⟩, ⟨"high", "REAL NOT NULL"⟩,
      ⟨"low", "REAL NOT NULL"⟩, ⟨"close", "REAL NOT NULL"⟩, ⟨"volume", "REAL NOT NULL"⟩,
      ⟨"turnover", "REAL"⟩, ⟨"created_at_utc", "TEXT NOT NULL"⟩]
    [.unique ["symbol", "category", "interval", "open_time_ms"]],
  .createIndex "idx_price_history_symbol_time" "price_history"
    (ascending ["symbol", "category", "interval", "open_time_ms"])]

/-- The script of `_m006_app_logs`. -/
def appLogsScript : List Statement := [
  .createTable "app_logs" [
      ⟨"id", "INTEGER PRIMARY KEY AUTOINCREMENT"⟩, ⟨"channel", "TEXT NOT NULL DEFAULT 'app'"⟩,
      ⟨"level", "TEXT NOT NULL DEFAULT 'INFO'"⟩, ⟨"message", "TEXT NOT NULL"⟩,
      ⟨"extra_json", "TEXT"⟩, ⟨"created_at_utc", "TEXT NOT NULL"⟩] [],
  .createIndex "idx_app_logs_channel_ts" "app_logs" (ascending ["channel", "created_at_utc"]),
  .createIndex "idx_app_logs_level_ts" "app_logs" (ascending ["level", "created_at_utc"])]

/-- The script of `_m007_bot_settings`. -/
def botSettingsScript : List Statement := [
  .createTable "bot_settings" [
      ⟨"key", "TEXT PRIMARY KEY"⟩, ⟨"value", "TEXT"⟩, ⟨"is_secret", "INTEGER NOT NULL DEFAULT 0"⟩,
      ⟨"description", "TEXT"⟩, ⟨"updated_at_utc", "TEXT NOT NULL"⟩] []]

/-- The script of `_m008_ml_training_runs`. -/
def mlTrainingRunsScript : List Statement := [
  .createTable "ml_training_runs" [
      ⟨"run_id", "TEXT PRIMARY KEY"⟩, ⟨"model_scope", "TEXT NOT NULL"⟩,
      ⟨"model_version", "TEXT NOT NULL"⟩, ⟨"mode", "TEXT NOT NULL"⟩,
      ⟨"status", "TEXT NOT NULL DEFAULT 'pending'"⟩, ⟨"epoch", "INTEGER"⟩,
      ⟨"max_epochs", "INTEGER"⟩, ⟨"loss", "REAL"⟩, ⟨"accuracy", "REAL"⟩, ⟨"sharpe_ratio", "REAL"⟩,
      ⟨"trade_count", "INTEGER"⟩, ⟨"is_trained", "INTEGER NOT NULL DEFAULT 0"⟩,
      ⟨"trained_at_utc", "TEXT"⟩, ⟨"started_at_utc", "TEXT NOT NULL"⟩,
      ⟨"finished_at_utc", "TEXT"⟩, ⟨"notes", "TEXT"⟩] [],
  .createIndex "idx_ml_training_scope" "ml_training_runs"
    (ascending ["model_scope", "started_at_utc"]),
  .createIndex "idx_ml_training_trained" "ml_training_runs"
    (ascending ["model_scope", "is_trained", "trained_at_utc"])]

/-- The script of `_m009_telegram_log`. -/
def telegramLogScript : List Statement := [
  .createTable "telegram_commands" [
      ⟨"id", "INTEGER PRIMARY KEY AUTOINCREMENT"⟩, ⟨"chat_id", "TEXT NOT NULL"⟩,
      ⟨"username", "TEXT"⟩, ⟨"command", "TEXT NOT NULL"⟩, ⟨"args", "TEXT"⟩,
      ⟨"response_status", "TEXT NOT NULL DEFAULT 'sent'"⟩, ⟨"created_at_utc", "TEXT NOT NULL"⟩] [],
  .createIndex "idx_telegram_commands_ts" "telegram_commands" (ascending ["created_at_utc"]),
  .createTable "telegram_alerts" [
      ⟨"id", "INTEGER PRIMARY KEY AUTOINCREMENT"⟩, ⟨"alert_type", "TEXT NOT NULL"⟩,
      ⟨"message", "TEXT NOT NULL"⟩, ⟨"delivered", "INTEGER NOT NULL DEFAULT 0"⟩,
      ⟨"created_at_utc", "TEXT NOT NULL"⟩] [],
  .createIndex "idx_telegram_alerts_ts" "telegram_alerts" (ascending ["created_at_utc"])]

/-- The script of `_m010_labeled_samples`. -/
def labeledSamplesScript : List Statement := [
  .createTable "labeled_samples" [
      ⟨"id", "INTEGER PRIMARY KEY AUTOINCREMENT"⟩, ⟨"feature_hash", "TEXT UNIQUE NOT NULL"⟩,
      ⟨"symbol", "TEXT NOT NULL"⟩, ⟨"model_scope", "TEXT NOT NULL DEFAULT 'futures'"⟩,
      ⟨"features_json", "TEXT NOT NULL"⟩, ⟨"label", "INTEGER NOT NULL"⟩,
      ⟨"source", "TEXT NOT NULL DEFAULT 'historical'"⟩, ⟨"weight", "REAL NOT NULL DEFAULT 1.0"⟩,
      ⟨"created_at_utc", "TEXT NOT NULL"⟩] [],
  .createIndex "idx_labeled_scope_symbol" "labeled_samples"
    (ascending ["model_scope", "symbol", "created_at_utc"]),
  .createIndex "idx_labeled_source" "labeled_samples" (ascending ["source", "model_scope"])]

/-- The script of `_m011_symbol_registry`. -/
def symbolRegistryScript : List Statement := [
  .createTable "symbol_registry" [
      ⟨"symbol", "TEXT NOT NULL"⟩, ⟨"category", "TEXT NOT NULL"⟩,
      ⟨"interval", "TEXT NOT NULL DEFAULT '1'"⟩, ⟨"candle_count", "INTEGER NOT NULL DEFAULT 0"⟩,
      ⟨"last_candle_ms", "INTEGER"⟩, ⟨"last_backfill_at", "TEXT"⟩,
      ⟨"ws_active", "INTEGER NOT NULL DEFAULT 0"⟩,
      ⟨"data_status", "TEXT NOT NULL DEFAULT 'empty'"⟩, ⟨"added_at_utc", "TEXT NOT NULL"⟩,
      ⟨"updated_at_utc", "TEXT NOT NULL"⟩]
    [.primaryKey ["symbol", "category", "interval"]],
  .createIndex "idx_symbol_registry_status" "symbol_registry"
    (ascending ["data_status", "category"])]

/-- The script of `_m012_symbol_labeling_status`. -/
def symbolLabelingStatusScript : List Statement := [
  .createTable "symbol_labeling_status" [
      ⟨"symbol", "TEXT NOT NULL"⟩, ⟨"category", "TEXT NOT NULL"⟩,
      ⟨"interval", "TEXT NOT NULL DEFAULT '1'"⟩, ⟨"model_scope", "TEXT NOT NULL"⟩,
      ⟨"labeling_status", "TEXT NOT NULL DEFAULT 'pending'"⟩,
      ⟨"labeled_count", "INTEGER NOT NULL DEFAULT 0"⟩, ⟨"last_labeled_at", "TEXT"⟩,
      ⟨"added_at_utc", "TEXT NOT NULL"⟩, ⟨"updated_at_utc", "TEXT NOT NULL"⟩]
    [.primaryKey ["symbol", "category", "interval", "model_scope"]],
  .createIndex "idx_symbol_labeling_scope" "symbol_labeling_status"
    (ascending ["model_scope", "labeling_status"]),
  .createIndex "idx_symbol_labeling_status" "symbol_labeling_status"
    (ascending ["labeling_status", "category"])]

/-- The script of `_m013_orderbook_snapshots`. -/
def orderbookSnapshotsScript : List Statement := [
  .createTable "orderbook_snapshots" [
      ⟨"id", "INTEGER PRIMARY KEY AUTOINCREMENT"⟩, ⟨"symbol", "TEXT NOT NULL"⟩,
      ⟨"category", "TEXT NOT NULL DEFAULT 'linear'"⟩, ⟨"bids_json", "TEXT NOT NULL"⟩,
      ⟨"asks_json", "TEXT NOT NULL"⟩, ⟨"ts_ms", "INTEGER NOT NULL"⟩,
      ⟨"created_at_utc", "TEXT NOT NULL"⟩] [],
  .createIndex "idx_orderbook_symbol_ts" "orderbook_snapshots"
    [⟨"symbol", false⟩, ⟨"category", false⟩, ⟨"ts_ms", true⟩]]

end Botik
